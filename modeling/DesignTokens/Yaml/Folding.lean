import DesignTokens.Yaml.Cursor

/-!
Blanks and breaks inside scalars. A single break counts as a space, and further breaks count as
themselves; blanks around breaks do not count.
-/

namespace DesignTokens
namespace Yaml

structure Gap where
  blanks : List Char := []
  firstBreak : List Char := []
  moreBreaks : List Char := []
  isBroken : Bool := false

namespace Gap

def folded (gap : Gap) : List Char :=
  if gap.isBroken then
    if gap.firstBreak.head? == some '\n' then
      if gap.moreBreaks.isEmpty then [' '] else gap.moreBreaks
    else gap.firstBreak ++ gap.moreBreaks
  else gap.blanks

def addBreak (gap : Gap) (counted : List Char) : Gap :=
  if gap.isBroken then { gap with moreBreaks := gap.moreBreaks ++ counted }
  else { blanks := [], firstBreak := counted, moreBreaks := [], isBroken := true }

/-- Reads the rest of a gap. A tab before column `indent` of a new line is refused. -/
def read (indent : Nat) : Nat → Gap → Cursor → Option (Gap × Cursor)
  | 0, gap, cursor => some (gap, cursor)
  | fuel + 1, gap, cursor =>
      match cursor.next? with
      | none => some (gap, cursor)
      | some character =>
          if isBlank character then
            if gap.isBroken then
              if character = '\t' && cursor.column < indent then none
              else read indent fuel gap cursor.skip
            else read indent fuel { gap with blanks := gap.blanks ++ [character] } cursor.skip
          else if isBreak character then
            read indent fuel (gap.addBreak cursor.takeBreak.1) cursor.takeBreak.2
          else some (gap, cursor)

end Gap
end Yaml
end DesignTokens
