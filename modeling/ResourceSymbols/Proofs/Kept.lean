import ResourceSymbols.Proofs.Inputs

namespace ResourceSymbols

open ResourceSymbols.Path Watch

section Beside

variable {σ K α : Type}

end Beside

section Keeper

variable {σ : Type} {H : Host (StateM σ)} {R : Bytes × Bytes → Prop}

end Keeper

section Compile

variable {σ : Type} {H : Host (StateM σ)}

end Compile

end ResourceSymbols
