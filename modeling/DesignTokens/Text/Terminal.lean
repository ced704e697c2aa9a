/-!
Texts as they look without a terminal: without control sequences, and without control characters
other than white space.
-/

namespace DesignTokens
namespace Text

/-- Sets a text off by control sequences. -/
def emphasize (text : String) : String :=
  "\x1b[1m" ++ text ++ "\x1b[0m"

/-- How much of a control sequence has been read. -/
inductive ControlState where
  | outside
  | escape
  | intermediate
  | parameters
  /-- A command to the system, which a bell ends. -/
  | command
  /-- A string for a device: its head in three parts, and its content. -/
  | deviceStart
  | deviceParameters
  | deviceIntermediate
  | deviceContent
  deriving DecidableEq, Repr

namespace ControlState

def isWithin (first last character : Char) : Bool :=
  first ≤ character && character ≤ last

/-- The byte that ends a string for a device, even as a part of a character. -/
def endsDevice (character : Char) : Bool :=
  (String.singleton character).toUTF8.data.contains 0x9c

/-- The state after a character that is not shown. An escape begins a sequence anew, and two
characters cancel it. -/
def after (state : ControlState) (character : Char) : ControlState :=
  if character = '\x1b' then escape
  else if character = '\x18' || character = '\x1a' then outside
  else
    match state with
    | outside => outside
    | escape =>
        if character = '[' then parameters
        else if character = ']' then command
        else if character = 'P' then deviceStart
        else if ['X', '^', '_'].contains character then deviceContent
        else if isWithin '0' '~' character then outside
        else if isWithin ' ' '/' character then intermediate
        else escape
    | intermediate => if isWithin '0' '~' character then outside else intermediate
    | parameters => if isWithin '@' '~' character then outside else parameters
    | command => if character = '\x07' then outside else command
    | deviceStart =>
        if isWithin ' ' '/' character then deviceIntermediate
        else if isWithin '0' '?' character then deviceParameters
        else if isWithin '@' '~' character then deviceContent
        else deviceStart
    | deviceParameters =>
        if isWithin ' ' '/' character then deviceIntermediate
        else if isWithin '<' '~' character then deviceContent
        else deviceParameters
    | deviceIntermediate => if isWithin '0' '~' character then deviceContent else deviceIntermediate
    | deviceContent => if endsDevice character then outside else deviceContent

def isSpacing (character : Char) : Bool :=
  ['\t', '\n', '\x0c', '\r'].contains character

/-- Whether a character is shown. White space is, unless a command or a device takes it. -/
def shows (state : ControlState) (character : Char) : Bool :=
  match state with
  | outside => isSpacing character || (' ' ≤ character && character != '\x7f')
  | escape | intermediate | parameters => isSpacing character
  | _ => false

/-- What is shown of a text that begins in some state. Once a character is shown, so are those after
it up to the next control character; there an unfinished sequence goes on, unless a character beyond
ASCII has ended it. -/
def shown (state : ControlState) (isShowing : Bool) : List Char → List Char
  | [] => []
  | character :: rest =>
      if (isShowing && outside.shows character) || state.shows character then
        character :: shown (if character.toNat < 0x80 then state else outside) true rest
      else shown (state.after character) false rest

end ControlState

def withoutControls (text : String) : String :=
  String.ofList (ControlState.outside.shown false text.toList)

end Text
end DesignTokens
