import FieldChecks.Checksum.Luhn

/-!
# National Provider Identifiers

Ten digits that pass the Luhn check behind the prefix of the health
industry.
-/

namespace FieldChecks

namespace Npi

/-- The prefix of card numbers of the health industry. -/
def industry : String := "80840"

/-- Whether a text is ten digits that pass the Luhn check behind the prefix. -/
def isValid (text : String) : Bool :=
  let cs := text.toList
  cs.length == 10 && cs.all isAsciiDigit && (Luhn.check (industry ++ text)).isOk

/-- Checks an identifier. -/
def check (text : String) : Except CheckError Unit :=
  if isValid text then .ok ()
  else .error (.invalid (quoted text ++ " is not a valid NPI"))

end Npi

end FieldChecks
