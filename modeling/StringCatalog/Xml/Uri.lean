import StringCatalog.Text.RangeTable
import StringCatalog.Text.Search

/-! # Names of namespaces

A namespace is named by a uniform resource identifier:

* **`Xml.UriForm`** — whether an identifier starts with a scheme or is relative.
* **`Xml.uriForm?`** — the form of a text, if it is an identifier at all. -/

namespace StringCatalog.Xml

/-- **The two forms of an identifier.** -/
inductive UriForm where
  /-- The identifier starts with a scheme. -/
  | absolute
  /-- The identifier has no scheme. -/
  | relative
  deriving DecidableEq, Repr

/-- A character that stands for itself everywhere in an identifier. -/
def isUnreserved (c : Char) : Bool :=
  c.isAlphanum || "-._~!$&'()*+,;=".toList.contains c

/-- Whether a text is made of allowed characters and of octets written with percent signs. -/
def isMadeOf (allowed : Char → Bool) : List Char → Bool
  | [] => true
  | '%' :: a :: b :: rest =>
      (Text.hexValue? a).isSome && (Text.hexValue? b).isSome && isMadeOf allowed rest
  | c :: rest => allowed c && isMadeOf allowed rest

/-- A character of a path. -/
def isPathChar (c : Char) : Bool :=
  isUnreserved c || c == ':' || c == '@' || c == '/'

/-- The two parts of a text at the first occurrence of a character, the second one empty if there is
none. -/
def splitAtFirst (c : Char) (text : List Char) : List Char × List Char :=
  (Text.cutAt? c text).getD (text, [])

/-- Whether a text is a host, perhaps with the number of a port behind it. -/
def isHost (text : List Char) : Bool :=
  match text with
  | '[' :: rest =>
      match Text.cutAt? ']' rest with
      | none => false
      | some (_, []) => true
      | some (_, ':' :: port) => !port.isEmpty && port.all Char.isDigit
      | some _ => false
  | _ =>
      match Text.cutAt? ':' text with
      | none => isMadeOf isUnreserved text
      | some (host, port) =>
          isMadeOf isUnreserved host && !port.isEmpty && port.all Char.isDigit

/-- Whether a text is an authority: a host, perhaps with a user before it. -/
def isAuthority (text : List Char) : Bool :=
  match Text.cutAt? '@' text with
  | none => isHost text
  | some (user, host) => isMadeOf (fun c => isUnreserved c || c == ':') user && isHost host

/-- Whether a text is an authority with a path behind it, or a path alone. -/
def isHierarchy (text : List Char) : Bool :=
  match text with
  | '/' :: '/' :: rest =>
      isAuthority (rest.takeWhile (· != '/')) && isMadeOf isPathChar (rest.dropWhile (· != '/'))
  | _ => isMadeOf isPathChar text

/-- Whether a text is the name of a scheme. -/
def isScheme : List Char → Bool
  | [] => false
  | c :: rest => c.isAlpha && rest.all fun d => d.isAlphanum || "+-.".toList.contains d

/-- **The form of an identifier,** if a text is one. -/
def uriForm? (text : List Char) : Option UriForm :=
  let (beforeFragment, fragment) := splitAtFirst '#' text
  let (hierarchy, query) := splitAtFirst '?' beforeFragment
  let isQueryChar (c : Char) : Bool := isPathChar c || c == '?'
  let isFragmentChar (c : Char) : Bool := isQueryChar c || c == '[' || c == ']'
  if !isMadeOf isFragmentChar fragment || !isMadeOf isQueryChar query then none
  else
    match Text.cutAt? ':' hierarchy with
    | some (scheme, rest) =>
        if isScheme scheme then if isHierarchy rest then some .absolute else none
        else if scheme.contains '/' && isHierarchy hierarchy then some .relative
        else none
    | none => if isHierarchy hierarchy then some .relative else none

end StringCatalog.Xml
