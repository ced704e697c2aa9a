import DesignTokens.Text.Case
import DesignTokens.Text.Join
import DesignTokens.Token.Category

/-!
The categories of the fields of composite tokens, which are told from the names of the fields.
-/

namespace DesignTokens
namespace Scss

/-- A test of a field's lowercase name. -/
inductive NameTest where
  | mentionsAny (fragments : List String)
  | equals (name : String)

def NameTest.accepts : NameTest → List Char → Bool
  | mentionsAny fragments, name =>
      fragments.any fun fragment => Text.mentions fragment.toList name
  | equals expected, name => name == expected.toList

/-- The first test that accepts a name decides. -/
def fieldTests : List (NameTest × Category) :=
  [(.mentionsAny ["color"], .color),
    (.mentionsAny ["family"], .fontFamily),
    (.mentionsAny ["weight"], .fontWeight),
    (.mentionsAny ["size", "width", "height", "spacing", "offset", "blur", "spread"], .dimension),
    (.equals "lineheight", .number)]

def fieldCategory (name : String) : Category :=
  let lowered := Text.lower name.toList
  match fieldTests.find? fun test => test.1.accepts lowered with
  | some test => test.2
  | none => .unknown

end Scss
end DesignTokens
