import CovertVault.Proofs.Number.Arithmetic

namespace CovertVault.Number
open Float.Model UnpackedFloat

variable {b : ℕ}

end CovertVault.Number
