import CovertVault.Json.Token
import CovertVault.Text.Encoded

namespace CovertVault.Json

/-- An open array or object: what it holds so far, newest first, and the key that waits for its
value. -/
inductive Frame where
  | arr (items : List Json)
  | obj (members : List (String × Json))
  | member (members : List (String × Json)) (key : String)

/-- What may come next. -/
inductive State where
  | value (stack : List Frame)
  /-- A first item or the end of an array. -/
  | firstItem (stack : List Frame)
  /-- A first key or the end of an object. -/
  | firstKey (stack : List Frame)
  | key (members : List (String × Json)) (stack : List Frame)
  | colon (members : List (String × Json)) (key : String) (stack : List Frame)
  /-- A comma, or the end of the innermost array or object. -/
  | more (stack : List Frame)
  | done (v : Json)

/-- Members in the order of their first mention, each with its last value. -/
def lastValues (members : List (String × Json)) : List (String × Json) :=
  members.foldl (fun r (k, v) => insert k v r) []

namespace State

/-- A value is complete. -/
def complete (v : Json) : List Frame → State
  | [] => .done v
  | .arr items :: r => .more (.arr (v :: items) :: r)
  | .member members k :: r => .more (.obj ((k, v) :: members) :: r)
  | .obj members :: r => .more (.obj members :: r)

/-- A key; half of a surrogate pair in it is replaced. -/
def keyOf (s : List Text.Point) : String := String.ofList (s.map Text.Point.charOrReplacement)

/-- A value begins. -/
def begin (stack : List Frame) : Token → Option State
  | .openObj => some (.firstKey stack)
  | .openArr => some (.firstItem stack)
  | .atom v => some (complete v stack)
  | .str s => some (complete (ofPoints s) stack)
  | _ => none

def step : State → Token → Option State
  | .value stack, t => begin stack t
  | .firstItem stack, .closeArr => some (complete (.arr []) stack)
  | .firstItem stack, t => begin (.arr [] :: stack) t
  | .firstKey stack, .closeObj => some (complete (.obj []) stack)
  | .firstKey stack, .str k => some (.colon [] (keyOf k) stack)
  | .key members stack, .str k => some (.colon members (keyOf k) stack)
  | .colon members k stack, .colon => some (.value (.member members k :: stack))
  | .more (.arr items :: r), .comma => some (.value (.arr items :: r))
  | .more (.arr items :: r), .closeArr => some (complete (.arr items.reverse) r)
  | .more (.obj members :: r), .comma => some (.key members r)
  | .more (.obj members :: r), .closeObj =>
    some (complete (.obj (lastValues members.reverse)) r)
  | _, _ => none

def result? : State → Option Json
  | .done v => some v
  | _ => none

/-- How many arrays and objects are open, where one of them has just got something in it. -/
def depth : State → Nat
  | .value stack | .more stack => stack.length
  | _ => 0

end State

/-- One step of a reader that minds its depth. -/
def Reading.step (m : Reading) (st : State) (t : Token) : Option State :=
  (st.step t).filter fun st => m.depthLimit.all (st.depth ≤ ·)

/-- The value that a text writes. -/
def parse? (m : Reading) (s : List Text.Point) : Option Json := do
  (← (← tokens m s).foldlM m.step (.value [])).result?

/-- Records and snapshots. -/
def strict : Reading := ⟨false, true, some 200⟩

/-- Answers of the remote service. -/
def lenient : Reading := ⟨true, false, none⟩

/-- The value in the body of an answer, in the encoding that the body reveals. -/
def ofBody? (body : Bytes) : Option Json := do parse? lenient (← Text.decodeRevealed? body)

end CovertVault.Json
