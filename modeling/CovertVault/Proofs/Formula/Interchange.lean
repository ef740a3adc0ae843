import CovertVault.Proofs.Formula.Evaluation
import CovertVault.Proofs.Formula.LiteralValue
import CovertVault.Proofs.Number.Opposite

namespace CovertVault.Formula
open Number Machine

variable {ls : List Lexeme}

end CovertVault.Formula
