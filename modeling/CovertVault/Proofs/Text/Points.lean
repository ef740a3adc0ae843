import CovertVault.Text.Unencodable
import Mathlib.Data.List.TakeWhile
import Mathlib.Logic.Function.Basic

namespace CovertVault.Text

theorem encodable_points (t : String) : encodable (points t) = .ok t := by
  have hd : (points t).dropWhile Charset.utf8.holds = [] := by
    rw [List.dropWhile_eq_nil_iff]
    intro p hp
    obtain ⟨c, -, rfl⟩ := List.mem_map.1 hp
    rfl
  have hc : (points t).map Point.charOrReplacement = t.toList := by
    rw [points, List.map_map]
    exact List.map_id _
  unfold encodable Charset.unencodable?
  dsimp only
  rw [if_pos hd, hc, String.ofList_toList]

theorem eq_points_of_encodable {p : List Point} {t : String} (h : encodable p = .ok t) :
    p = points t := by
  unfold encodable at h
  split at h
  · cases h
  · next hn =>
    cases h
    unfold Charset.unencodable? at hn
    dsimp only at hn
    split at hn
    · next hd =>
      rw [List.dropWhile_eq_nil_iff] at hd
      rw [points, String.toList_ofList, List.map_map]
      symm
      -- Every point is held, so it is a character.
      have hid : ∀ q ∈ p, (Point.char ∘ Point.charOrReplacement) q = id q := by
        intro q hq
        have hheld := hd q hq
        cases q with
        | char c => rfl
        | half n => cases hheld
      rw [List.map_congr_left hid, List.map_id]
    · cases hn

theorem mapM_encodable_points (t : Option String) : (t.map points).mapM encodable = .ok t := by
  cases t with
  | none => rfl
  | some t =>
    rw [Option.map_some, Option.mapM_some, encodable_points]
    rfl

theorem eq_points_of_mapM_encodable {p : Option (List Point)} {t : Option String}
    (h : p.mapM encodable = .ok t) : p = t.map points := by
  cases p with
  | none =>
    cases h
    rfl
  | some p =>
    rw [Option.mapM_some] at h
    cases he : encodable p with
    | error x =>
      rw [he] at h
      cases h
    | ok u =>
      rw [he] at h
      cases h
      rw [eq_points_of_encodable he, Option.map_some]

theorem mapM_encodable_error {p : Option (List Point)} {x : Unencodable}
    (h : p.mapM encodable = .error x) : ∃ q, p = some q ∧ encodable q = .error x := by
  cases p with
  | none => cases h
  | some q =>
    rw [Option.mapM_some] at h
    cases he : encodable q with
    | error y =>
      rw [he] at h
      cases h
      exact ⟨q, rfl, he⟩
    | ok u =>
      rw [he] at h
      cases h

theorem points_eq_nil {t : String} : points t = [] ↔ t = "" := by
  simp [points]

theorem points_injective : Function.Injective points := by
  intro s t h
  have hs := encodable_points s
  rw [h, encodable_points] at hs
  exact (Except.ok.inj hs).symm

end CovertVault.Text
