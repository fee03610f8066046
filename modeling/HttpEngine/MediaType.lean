import HttpEngine.Header

/-!
# Media types

A media type is `type/subtype` followed by parameters.  A structured suffix
after the last plus sign is not part of the subtype.  Type, subtype and
parameter names are case-insensitive and kept in lower case, parameter values
are kept as written.
-/

namespace HttpEngine

structure MediaType where
  type : List Char
  subtype : List Char
  /-- The part of the subtype from its last plus sign on. -/
  suffix : List Char
  parameters : List (List Char × List Char)
  deriving DecidableEq, Repr

namespace MediaType

/-! ## Parameters -/

/-- What a quoted value may hold. -/
def isQuotedChar (character : Char) : Bool :=
  decide (31 < character.toNat ∧ character.toNat ≠ 127)

/-- The value of a parameter and the parameters that follow it, `none` standing
for none.  A quoted value is not empty, so that a quotation mark right after the
first one belongs to it; an unquoted value is empty only at the end. -/
def parseValue? : List Char → Option (List Char × Option (List Char))
  | '"' :: first :: rest =>
      if !isQuotedChar first then none
      else
        let more := rest.takeWhile fun character => character != '"' &&
          isQuotedChar character
        match rest.drop more.length with
        | '"' :: rest =>
            match rest.dropWhile (· == ' ') with
            | [] => some (first :: more, none)
            | ';' :: rest => some (first :: more, some rest)
            | _ => none
        | _ => none
  | text =>
      let value := text.takeWhile isTokenChar
      match text.drop value.length with
      | [] => some (value, none)
      | ';' :: rest => if value.isEmpty then none else some (value, some rest)
      | _ => none

/-- Reads parameters; `fuel` bounds their number. -/
def parseParameters? : Nat → List Char → Option (List (List Char × List Char))
  | 0, _ => none
  | fuel + 1, text =>
      match text.dropWhile (· == ' ') with
      | [] => some []
      | text =>
          let name := text.takeWhile isTokenChar
          match text.drop name.length with
          | '=' :: rest =>
              if name.isEmpty then none
              else
                match parseValue? rest with
                | none => none
                | some (value, none) => some [(Text.lower name, value)]
                | some (value, some rest) =>
                    (parseParameters? fuel rest).map
                      ((Text.lower name, value) :: ·)
          | _ => none

/-! ## Types -/

/-- Cuts a subtype before its last plus sign, unless that is its first
character. -/
def cutSuffix (text : List Char) : List Char × List Char :=
  let suffix := (text.reverse.takeWhile (· != '+')).length
  if text.length ≤ suffix + 1 then (text, [])
  else text.splitAt (text.length - suffix - 1)

def parse? (text : String) : Option MediaType :=
  let text := text.toList
  let type := text.takeWhile isTokenChar
  match text.drop type.length with
  | '/' :: rest =>
      let whole := rest.takeWhile isTokenChar
      let (subtype, suffix) := cutSuffix (Text.lower whole)
      if type.isEmpty then none
      else
        match rest.drop whole.length with
        | [] => some ⟨Text.lower type, subtype, suffix, []⟩
        | ';' :: rest =>
            if whole.isEmpty then none
            else
              (parseParameters? (rest.length + 1) rest).map fun parameters =>
                ⟨Text.lower type, subtype, suffix, parameters⟩
        | _ => none
  | _ => none

/-- Type and subtype with its suffix. -/
def essence (media : MediaType) : List Char :=
  media.type ++ '/' :: media.subtype ++ media.suffix

def parameter? (media : MediaType) (name : String) : Option String :=
  (media.parameters.lookup name.toList).map String.ofList

def isFormData (media : MediaType) : Bool :=
  media.type == "multipart".toList && media.subtype == "form-data".toList

def isUrlEncoded (media : MediaType) : Bool :=
  media.essence == "application/x-www-form-urlencoded".toList

end MediaType

end HttpEngine
