import RestRecords.Collection
/-!
# Contact data

Ready-made declarations: identifiers, e-mail addresses, countries, and postal addresses.
-/

namespace RestRecords

open Text

namespace Contact

/-- Null becomes `0`, and a numeral its integer. -/
def normalizeId : Json → Except String Json
  | .null => .ok (.int 0)
  | .str s =>
    match readSigned64? (trim s.toList) with
    | some n => .ok (.int n.toInt)
    | none => .ok (.str s)
  | other => .ok other

/-- An identifier is a number that is not negative. -/
def isId (payload : Json) : Bool :=
  payload.double?.any fun x => decide (0 ≤ x.toInt)

def id : ValueSchema := { name := "id", normalize := normalizeId, check := isId }

def normalizeEmail : Json → Except String Json
  | .str s => .ok (.str (String.ofList (trim s.toList)))
  | .null => .ok .null
  | other => .error (other.text ++ " is not an e-mail address")

/-- An address has one `@`, with a text before it and, behind it, a name with a point inside; it has
no blanks. -/
def isEmail : Json → Bool
  | .str s =>
    let cs := s.toList
    let user := cs.takeWhile (· ≠ '@')
    match cs.drop user.length with
    | _ :: domain =>
      !user.isEmpty && !domain.contains '@' && domain.contains '.' && domain.head? != some '.' &&
        domain.getLast? != some '.' && !cs.any isBlank
    | [] => false
  | _ => false

def emailAddress : ValueSchema :=
  { name := "emailAddress", normalize := normalizeEmail, check := isEmail }

def countryCode : EnumSchema :=
  { name := "CountryCode"
    cases :=
      [⟨"Germany", .text "DE"⟩, ⟨"Austria", .text "AT"⟩, ⟨"Switzerland", .text "CH"⟩,
        ⟨"France", .text "FR"⟩, ⟨"Netherlands", .text "NL"⟩, ⟨"UnitedKingdom", .text "GB"⟩,
        ⟨"UnitedStates", .text "US"⟩] }

def notBlank (v : FieldValue) : Option String :=
  match v.str? with
  | some s => if (trim s.toList).isEmpty then some "must not be empty" else none
  | none => some "must not be empty"

/-- A postal code has three to ten letters, digits, blanks or dashes, and at least one digit. -/
def postalCode (v : FieldValue) : Option String :=
  let zip := trim ((v.str?.getD "").toList)
  let length := (String.ofList zip).utf8ByteSize
  if 3 ≤ length && length ≤ 10 && zip.all (fun c => c.isAlphanum || c == ' ' || c == '-') &&
      zip.any isDigit then
    none
  else some ("\x60" ++ String.ofList zip ++ "\x60 is not a valid postal code")

def addressDecl : EntityDecl :=
  { fields :=
      [{ name := "supplement", kind := .str, nullable := true },
        { name := "street", kind := .str, check := some notBlank },
        { name := "zip", kind := .str, check := some postalCode },
        { name := "city", kind := .str, check := some notBlank },
        { name := "countryCode", kind := .enumeration countryCode, nullable := true }] }

def address : EntityRef := ⟨"Address", 0⟩

def addresses : CollectionRef := ⟨contentName, 0⟩

def catalog : Catalog := ⟨[addressDecl], [{ element := .entity address }]⟩

end Contact

structure Address where
  record : Record

namespace Address

def initial (Δ : Catalog) : Traced Address := do
  return ⟨← Record.initial Δ Contact.address⟩

def ofJson (Δ : Catalog) (raw : Json) : Traced Address := do
  return ⟨← Record.ofJson Δ Contact.address raw⟩

def ofText (Δ : Catalog) (text : String) : Traced Address := do
  return ⟨← Record.ofText Δ Contact.address text⟩

def supplement? (Δ : Catalog) (a : Address) : Option String :=
  a.record.str? Δ "supplement"

def street? (Δ : Catalog) (a : Address) : Option String :=
  a.record.str? Δ "street"

def zip? (Δ : Catalog) (a : Address) : Option String :=
  a.record.str? Δ "zip"

def city? (Δ : Catalog) (a : Address) : Option String :=
  a.record.str? Δ "city"

/-- The country, which is Germany when none is given. -/
def country (Δ : Catalog) (a : Address) : EnumValue :=
  (a.record.enumCase? Δ "countryCode").getD ⟨Contact.countryCode, ⟨"Germany", .text "DE"⟩⟩

private def setField (Δ : Catalog) (a : Address) (name : String) (v : FieldValue) :
    Except Error Address :=
  (a.record.set Δ name v).map Address.mk

def setSupplement (Δ : Catalog) (a : Address) (supplement : Option String) : Except Error Address :=
  a.setField Δ "supplement" (supplement.elim .null .str)

def setStreet (Δ : Catalog) (a : Address) (street : String) : Except Error Address :=
  a.setField Δ "street" (.str street)

def setZip (Δ : Catalog) (a : Address) (zip : String) : Except Error Address :=
  a.setField Δ "zip" (.str zip)

def setCity (Δ : Catalog) (a : Address) (city : String) : Except Error Address :=
  a.setField Δ "city" (.str city)

def setCountry (Δ : Catalog) (a : Address) (country : EnumValue) : Except Error Address :=
  a.setField Δ "countryCode" (.enumCase country)

end Address

def Collection.addresses (c : Collection) : List Address :=
  (c.recordsNamed Contact.address.name).map Address.mk

end RestRecords
