import CovertVault.Proofs.Base64
import CovertVault.Proofs.Json.Reader
import CovertVault.Record.Coding

namespace CovertVault
open Json Number

theorem Json.listOf?_map {α : Type} {read : Json → Option α} {toJson : α → Json}
    (h : ∀ a, read (toJson a) = some a) (l : List α) :
    listOf? read (.arr (l.map toJson)) = some l := by
  have hf : read ∘ toJson = fun a => some a := funext h
  rw [listOf?, List.mapM_map, hf]
  exact (List.mapM_pure (f := id)).trans (congrArg some (List.map_id l))

namespace FileRecord

theorem ofJson?_toJson (f : FileRecord) : ofJson? f.toJson = some f := by
  have hc : Json.ciphertext? (.str (Base64.encodeString Base64.standard f.ciphertext)) =
      some f.ciphertext := by
    rw [Json.ciphertext?, Base64.encodeString, String.toList_ofList, Base64.decodeAscii?_encode]
  simp [ofJson?, toJson, FileMeta.ofMembers?, fieldOr?, field?, int?, str?, List.lookup_cons, hc]

theorem plain_toJson {f : FileRecord} (hi : (natText f.id.natAbs).length ≤ digitLimit)
    (hs : (natText f.size.natAbs).length ≤ digitLimit) : Plain 1 f.toJson := by
  refine .obj (by simp) ?_
  simp only [List.forall_mem_cons, List.not_mem_nil, false_implies, implies_true, and_true]
  exact ⟨.str 0 _, .str 0 _, .int 0 hi, .str 0 _, .int 0 hs, .str 0 _⟩

end FileRecord

namespace HistoryRecord

theorem ofJson?_toJson (h : HistoryRecord) : ofJson? h.toJson = some h := by
  simp [ofJson?, toJson, fieldOr?, field?, int?, str?, List.lookup_cons]

theorem plain_toJson {h : HistoryRecord} (hi : (natText h.id.natAbs).length ≤ digitLimit) :
    Plain 1 h.toJson := by
  refine .obj (by simp) ?_
  simp only [List.forall_mem_cons, List.not_mem_nil, false_implies, implies_true, and_true]
  exact ⟨.str 0 _, .str 0 _, .int 0 hi, .str 0 _⟩

end HistoryRecord

namespace Snapshot

theorem ofJson?_toJson (s : Snapshot) : ofJson? s.toJson = some s := by
  have hf := listOf?_map FileRecord.ofJson?_toJson s.files
  have hh := listOf?_map HistoryRecord.ofJson?_toJson s.history
  have hp : optionalStr? ((s.pinDigest.map Json.str).getD .null) = some s.pinDigest := by
    cases s.pinDigest <;> rfl
  simp [ofJson?, toJson, fieldOr?, field?, str?, List.lookup_cons, hf, hh, hp]

theorem plain_toJson {s : Snapshot}
    (h : ∀ n ∈ s.numbers, (natText n.natAbs).length ≤ digitLimit) : Plain 3 s.toJson := by
  have hf : ∀ v ∈ s.files.map FileRecord.toJson, Plain 1 v := by
    intro v hv
    obtain ⟨f, hf, rfl⟩ := List.mem_map.1 hv
    have hn : ∀ n ∈ [f.id, f.size], n ∈ s.numbers := fun n hn =>
      List.mem_append_left _ (List.mem_flatMap.2 ⟨f, hf, hn⟩)
    exact FileRecord.plain_toJson (h _ (hn _ (by simp))) (h _ (hn _ (by simp)))
  have hh : ∀ v ∈ s.history.map HistoryRecord.toJson, Plain 1 v := by
    intro v hv
    obtain ⟨r, hr, rfl⟩ := List.mem_map.1 hv
    exact HistoryRecord.plain_toJson
      (h _ (List.mem_append_right _ (List.mem_map_of_mem hr)))
  have hp : Plain 2 ((s.pinDigest.map Json.str).getD .null) := by
    cases s.pinDigest with
    | none => exact .null 2
    | some d => exact .str 2 d
  refine .obj (by simp) ?_
  simp only [List.forall_mem_cons, List.not_mem_nil, false_implies, implies_true, and_true]
  exact ⟨.str 2 _, .arr hf, .arr hh, hp⟩

/-- A snapshot is read back from its text. -/
theorem readRecord?_write {s : Snapshot}
    (h : ∀ n ∈ s.numbers, (natText n.natAbs).length ≤ digitLimit) :
    readRecord? ofJson? s.toJson.write = some s := by
  have hd : ∀ n ∈ strict.depthLimit, 3 ≤ n := by
    intro n hn
    cases hn
    decide
  rw [readRecord?, parse?_write (plain_toJson h) hd]
  exact ofJson?_toJson s

end Snapshot

end CovertVault
