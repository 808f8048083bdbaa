import ServoLink.Decimal.Shortest

/-!
# Fixed places — the exact binary value rounded to a number of decimal places

The value is rounded from its exact binary expansion; a tie goes to the even last digit.
-/

namespace ServoLink
namespace Decimal

/-- `x` with `places` digits after the point. -/
def fixedText (places : Nat) (x : Float) : String :=
  let bits := x.toBits.toNat
  let sign := if binary64.isNegative bits then "-" else ""
  match binary64.classify bits with
  | .notANumber => "NaN"
  | .infinite => sign ++ "inf"
  | .finite m e =>
      let scaled := BinaryFormat.roundScaled (m * Nat.pow 10 places) 1 (-e)
      let fraction := digits (scaled % Nat.pow 10 places)
      let padded := List.replicate (places - fraction.length) '0' ++ fraction
      sign ++ String.ofList (digits (scaled / Nat.pow 10 places) ++
        (if places = 0 then [] else '.' :: padded))

end Decimal
end ServoLink
