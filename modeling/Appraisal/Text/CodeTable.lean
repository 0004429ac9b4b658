import Appraisal.Text.Hex
import Appraisal.Text.Split

/-!
# Appraisal.Text.CodeTable

Tables of code points. A row holds entries with blanks between them, each a code point or the first
and the last of a run in hexadecimal, and behind a colon what the table says of them.

* `CodeTable.ofRows`: the table that rows write.
* `CodeTable.lookup?`: the entry of a character.
-/

namespace Appraisal

structure CodeEntry where
  first : Nat
  last : Nat
  note : List Char
deriving DecidableEq, Repr

abbrev CodeTable := List CodeEntry

namespace CodeTable

def number (cs : List Char) : Nat := cs.foldl (fun n c => 16 * n + (Hex.digit? c).getD 0) 0

def numbers (cs : List Char) : List Nat := (splitWhere (· == '.') cs).map number

def entry (word : List Char) : CodeEntry :=
  let (run, note) := cutAt ':' word
  let (first, last) := cutAt '-' run
  { first := number first, last := number (last.getD first), note := note.getD [] }

def ofRows (rows : List String) : CodeTable :=
  rows.flatMap fun row => (splitWhere (· == ' ') row.toList).map entry

def lookup? (t : CodeTable) (c : Char) : Option CodeEntry :=
  match t with
  | [] => none
  | e :: t =>
    if c.toNat < e.first then none
    else if c.toNat ≤ e.last then some e
    else lookup? t c

end CodeTable
end Appraisal
