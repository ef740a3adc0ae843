import CovertVault.Backup.Bucket

namespace CovertVault.Backup

inductive Program (ε α : Type) where
  | done (result : Except ε α)
  | call (c : Call) (next : Except Failure Reply → Program ε α)

namespace Program
variable {ε α ω : Type}

/-- Runs a program to its end, without anything in between. -/
def run (answer : Call → ω → Except Failure Reply × ω) : Program ε α → ω → Except ε α × ω
  | .done r, w => (r, w)
  | .call c next, w =>
    let (reply, w) := answer c w
    run answer (next reply) w

/-- One call of a program; a program that is done stays as it is. -/
def step (b : Bucket) : Program ε α → Program ε α × Bucket
  | .done r => (.done r, b)
  | .call c next =>
    let (reply, b) := b.answer c
    (next reply, b)

end Program

end CovertVault.Backup
