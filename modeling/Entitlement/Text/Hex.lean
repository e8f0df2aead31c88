import Entitlement.Text.Digits

/-!
# Bytes in base sixteen

* `hex` : two lower-case digits a byte; `unhex?` : back, in either case.
-/

namespace Entitlement.Text

def hex (bytes : List UInt8) : String :=
  String.ofList (bytes.flatMap fun b => [digit (b.toNat / 16), digit (b.toNat % 16)])

def unhexDigits : List Char → Option (List UInt8)
  | [] => some []
  | [_] => none
  | a :: b :: rest => do
    let high ← digitValue? a
    let low ← digitValue? b
    return .ofNat (high * 16 + low) :: (← unhexDigits rest)

def unhex? (s : String) : Option (List UInt8) := unhexDigits s.toList

end Entitlement.Text
