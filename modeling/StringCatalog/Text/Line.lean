/-! # Lines

Two notions of line meet in text files:

* **`isLineBoundary`, `splitLines`** — the line boundaries of Unicode text, which include the
  vertical tab, the form feed, the separators and the next-line control.
* **`unifyNewlines`** — reading a text file: a carriage return, alone or before a line feed,
  becomes one line feed.
* **`chunks`** — a text cut after each line feed, nothing dropped. -/

namespace StringCatalog.Text

/-- **A character that ends a line of Unicode text.** -/
def isLineBoundary (c : Char) : Bool :=
  let n := c.toNat
  (10 ≤ n && n ≤ 13) || (28 ≤ n && n ≤ 30) || n == 0x85 || n == 0x2028 || n == 0x2029

/-- **The lines of a text without their boundaries.** A carriage return and the line feed after it
are one boundary, and a boundary at the end of the text opens no further line. -/
def splitLines : List Char → List (List Char)
  | [] => []
  | '\r' :: '\n' :: rest => [] :: splitLines rest
  | c :: rest =>
      if isLineBoundary c then [] :: splitLines rest
      else
        match splitLines rest with
        | [] => [[c]]
        | line :: lines => (c :: line) :: lines

/-- **A text file's line ends as line feeds.** -/
def unifyNewlines : List Char → List Char
  | [] => []
  | '\r' :: '\n' :: rest => '\n' :: unifyNewlines rest
  | '\r' :: rest => '\n' :: unifyNewlines rest
  | c :: rest => c :: unifyNewlines rest

/-- **The lines of a file that ends its lines with line feeds only.** A line feed at the end of the
text opens no further line. -/
def splitNewlines : List Char → List (List Char)
  | [] => []
  | c :: rest =>
      if c == '\n' then [] :: splitNewlines rest
      else
        match splitNewlines rest with
        | [] => [[c]]
        | line :: lines => (c :: line) :: lines

/-- **A text cut after each of its line feeds.** Every chunk but the last ends with one, and the
chunks make up the text again. -/
def chunks : List Char → List (List Char)
  | [] => []
  | c :: rest =>
      if c == '\n' then [c] :: chunks rest
      else
        match chunks rest with
        | [] => [[c]]
        | chunk :: more => (c :: chunk) :: more

/-- `(chunks text).flatten = text`: cutting loses nothing and adds nothing. -/
theorem flatten_chunks (text : List Char) : (chunks text).flatten = text := by
  induction text with
  | nil => rfl
  | cons c rest ih =>
      unfold chunks
      split
      · simp [ih]
      · split
        · next h => rw [h] at ih; simp_all
        · next h => rw [h] at ih; simp_all

end StringCatalog.Text
