import StringCatalog.Catalog.Assembly
import StringCatalog.FileTree.Basic
import StringCatalog.Text.Charset
import StringCatalog.Text.Line

/-! # The lines of a catalog

The content of a catalog is its lines, or the name of a file that has them:

* **`Catalog.charsetOf`** — what the bytes of a catalog say about it.
* **`Catalog.linesOf`** — the lines that some content stands for.
* **`Catalog.readContent`** — the strings of a catalog. -/

namespace StringCatalog.Catalog

/-! ## Character sets -/

/-- A character of a charset's name. -/
def isNameChar (c : Char) : Bool :=
  c.isAlphanum || "_-:.".toList.contains c

/-- The name behind the first `charset=` with a blank before it, at least one character away from
the start. -/
def charsetBehind? : Nat → List Char → Option (List Char)
  | _, [] => none
  | passed, c :: rest =>
      let name := (rest.drop "charset=".length).takeWhile isNameChar
      if c == ' ' && 0 < passed && "charset=".toList.isPrefixOf rest && !name.isEmpty then some name
      else charsetBehind? (passed + 1) rest

/-- The name of the charset in a line about the content's type. -/
def charsetName? : List Char → Option (List Char)
  | [] => none
  | c :: rest =>
      let key := "Content-Type:".toList
      match if key.isPrefixOf (c :: rest) then charsetBehind? 0 ((c :: rest).drop key.length)
          else none with
      | some name => some name
      | none => charsetName? rest

/-- **The charset that the bytes of a catalog name,** UTF-8 if they name none that is known. -/
def charsetOf (bytes : List UInt8) : Text.Charset :=
  let lines := Text.split (· == '\n') (Text.decodeLatin bytes)
  (lines.findSome? fun line => (charsetName? line).bind Text.Charset.ofName?).getD .utf8

/-! ## Lines -/

/-- **The lines that some content stands for,** and the file that they come from, if the content is
the name of one. -/
def linesOf (tree : FileTree) (content : List Char) :
    Except InputFault (Option String × List (List Char)) :=
  let name := String.ofList content
  match tree.resolve name with
  | .ok (.file _ bytes) =>
      match (charsetOf bytes).decode bytes with
      | .error fault => .error (.named fault)
      | .ok text => .ok (some name, Text.splitNewlines (Text.unifyNewlines text))
  | _ => .ok (none, Text.splitLines content)

/-- The entries that some content stands for. -/
def entriesOf (tree : FileTree) (content : List Char) : Except InputFault (List Entry) :=
  match linesOf tree content with
  | .error fault => .error fault
  | .ok (file, lines) =>
      match readEntries lines with
      | .error (line, cause) => .error (.catalog ⟨file, line, cause⟩)
      | .ok entries => .ok entries

/-- **The strings of a catalog,** with the notes on them. -/
def readContent (tree : FileTree) (path : String) (content : List Char) : Reading :=
  match entriesOf tree content with
  | .error fault => .failed (.input path fault)
  | .ok entries => reading path entries

end StringCatalog.Catalog
