import Plotter.Text.CaseIgnorable
import Plotter.Text.CaseRuns
import Plotter.Text.Cased

/-! Lower-case forms of whole texts, with the two letters that need more than a table. -/

namespace Plotter.Text

/-- The lower-case form of a character taken on its own. -/
def lowerChar (c : Char) : List Char :=
  -- One letter becomes two characters; the others keep their distance within a run.
  if c = 'İ' then ['i', '\u0307']
  else
    match caseRuns.find? (·.has c.toNat) with
    | some run => [Char.ofNat (run.lower + (c.toNat - run.first))]
    | none => [c]

/-- Whether the first character that is not ignorable has a case. -/
def startsCased (text : List Char) : Bool :=
  -- Ignorable characters are passed over even when they have a case themselves.
  match text.dropWhile isCaseIgnorable with
  | [] => false
  | c :: _ => isCased c

/-- Lower-cases a text whose left neighbourhood ends in a cased letter iff `afterLetter`. -/
def lowerFrom (afterLetter : Bool) : List Char → List Char
  | [] => []
  | c :: rest =>
    -- A sigma at the end of a word has a form of its own.
    let lowered :=
      if c = 'Σ' then [if afterLetter && !startsCased rest then 'ς' else 'σ'] else lowerChar c
    let afterLetter := if isCaseIgnorable c then afterLetter else isCased c
    lowered ++ lowerFrom afterLetter rest

/-- The lower-case form of a text. -/
def lowercase (text : List Char) : List Char :=
  -- In front of the first character there is no letter.
  lowerFrom false text

end Plotter.Text
