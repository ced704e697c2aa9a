/-!
ASCII spellings of letters and signs: sixteen code points at a time for Latin, Greek and Cyrillic,
by a rule for ASCII characters in another style, and one by one for some others. This is a selection
of characters; those it leaves out get the mark of unknown ones.
-/

namespace DesignTokens
namespace Text

/-- Spellings of consecutive code points from `first` on. -/
structure SpellingBlock where
  first : Nat
  spellings : List String

def spellingBlocks : List SpellingBlock :=
  [⟨0x00A0, [" ", "!", "C/", "PS", "$?", "Y=", "|", "SS", "\"", "(c)", "a", "<<", "!", "", "(r)",
      "-"]⟩,
    ⟨0x00B0, ["deg", "+-", "2", "3", "'", "u", "P", "*", ",", "1", "o", ">>", "1/4", "1/2", "3/4",
      "?"]⟩,
    ⟨0x00C0, ["A", "A", "A", "A", "A", "A", "AE", "C", "E", "E", "E", "E", "I", "I", "I", "I"]⟩,
    ⟨0x00D0, ["D", "N", "O", "O", "O", "O", "O", "x", "O", "U", "U", "U", "U", "Y", "Th", "ss"]⟩,
    ⟨0x00E0, ["a", "a", "a", "a", "a", "a", "ae", "c", "e", "e", "e", "e", "i", "i", "i", "i"]⟩,
    ⟨0x00F0, ["d", "n", "o", "o", "o", "o", "o", "/", "o", "u", "u", "u", "u", "y", "th", "y"]⟩,
    ⟨0x0100, ["A", "a", "A", "a", "A", "a", "C", "c", "C", "c", "C", "c", "C", "c", "D", "d"]⟩,
    ⟨0x0110, ["D", "d", "E", "e", "E", "e", "E", "e", "E", "e", "E", "e", "G", "g", "G", "g"]⟩,
    ⟨0x0120, ["G", "g", "G", "g", "H", "h", "H", "h", "I", "i", "I", "i", "I", "i", "I", "i"]⟩,
    ⟨0x0130, ["I", "i", "IJ", "ij", "J", "j", "K", "k", "k", "L", "l", "L", "l", "L", "l", "L"]⟩,
    ⟨0x0140, ["l", "L", "l", "N", "n", "N", "n", "N", "n", "'n", "ng", "NG", "O", "o", "O", "o"]⟩,
    ⟨0x0150, ["O", "o", "OE", "oe", "R", "r", "R", "r", "R", "r", "S", "s", "S", "s", "S", "s"]⟩,
    ⟨0x0160, ["S", "s", "T", "t", "T", "t", "T", "t", "U", "u", "U", "u", "U", "u", "U", "u"]⟩,
    ⟨0x0170, ["U", "u", "U", "u", "W", "w", "Y", "y", "Y", "Z", "z", "Z", "z", "Z", "z", "s"]⟩,
    ⟨0x0370, ["H", "h", "S", "s", "'", ",", "W", "w", "[?]", "[?]", "i", "s", "s.", "s.", "?",
      "J"]⟩,
    ⟨0x0380, ["[?]", "[?]", "[?]", "[?]", "'", "\"'", "A", ";", "E", "E", "I", "[?]", "O", "[?]",
      "U", "O"]⟩,
    ⟨0x0390, ["I", "A", "B", "G", "D", "E", "Z", "E", "Th", "I", "K", "L", "M", "N", "Ks", "O"]⟩,
    ⟨0x03A0, ["P", "R", "[?]", "S", "T", "U", "Ph", "Kh", "Ps", "O", "I", "U", "a", "e", "e",
      "i"]⟩,
    ⟨0x03B0, ["u", "a", "b", "g", "d", "e", "z", "e", "th", "i", "k", "l", "m", "n", "x", "o"]⟩,
    ⟨0x03C0, ["p", "r", "s", "s", "t", "u", "ph", "kh", "ps", "o", "i", "u", "o", "u", "o", "&"]⟩,
    ⟨0x03D0, ["b", "th", "U", "U", "U", "ph", "p", "&", "Q", "q", "St", "st", "W", "w", "Q", "q"]⟩,
    ⟨0x03E0, ["Sp", "sp", "Sh", "sh", "F", "f", "Kh", "kh", "H", "h", "G", "g", "CH", "ch", "Ti",
      "ti"]⟩,
    ⟨0x03F0, ["k", "r", "c", "j", "TH", "e", "e", "Sh", "sh", "s", "S", "s", "r/", "S", "S.",
      "S."]⟩,
    ⟨0x0400, ["Ie", "Io", "Dj", "Gj", "E", "Dz", "I", "Yi", "J", "Lj", "Nj", "Tsh", "Kj", "I",
      "U", "Dzh"]⟩,
    ⟨0x0410, ["A", "B", "V", "G", "D", "E", "Zh", "Z", "I", "I", "K", "L", "M", "N", "O", "P"]⟩,
    ⟨0x0420, ["R", "S", "T", "U", "F", "Kh", "Ts", "Ch", "Sh", "Shch", "'", "Y", "'", "E", "Iu",
      "Ia"]⟩,
    ⟨0x0430, ["a", "b", "v", "g", "d", "e", "zh", "z", "i", "i", "k", "l", "m", "n", "o", "p"]⟩,
    ⟨0x0440, ["r", "s", "t", "u", "f", "kh", "ts", "ch", "sh", "shch", "'", "y", "'", "e", "iu",
      "ia"]⟩,
    ⟨0x0450, ["ie", "io", "dj", "gj", "ie", "dz", "i", "yi", "j", "lj", "nj", "tsh", "kj", "i",
      "u", "dzh"]⟩]

/-- Consecutive code points from `first` on that stand for consecutive ASCII characters. -/
structure SpellingRun where
  first : Nat
  length : Nat
  spelledFrom : Char

/-- Digits of other scripts, and letters that are circled, of full width, bold or of flags. -/
def spellingRuns : List SpellingRun :=
  [⟨0x0660, 10, '0'⟩, ⟨0x0966, 10, '0'⟩, ⟨0x24B6, 26, 'A'⟩, ⟨0x24D0, 26, 'a'⟩, ⟨0xFF01, 94, '!'⟩,
    ⟨0x1D400, 26, 'A'⟩, ⟨0x1D41A, 26, 'a'⟩, ⟨0x1F1E6, 26, 'A'⟩]

/-- Other characters: controls and letters, punctuation and signs, syllables, words and pictures. -/
def singleSpellings : List (Nat × String) :=
  [(0x007F, ""), (0x0080, ""), (0x0085, ""), (0x01C4, "DZ"), (0x01C5, "Dz"), (0x01C6, "dz"),
    (0x01F0, "j"), (0x02B0, "h"), (0x0301, ""), (0x10D0, "a"), (0x13A0, "a"), (0x13F8, "ye"),
    (0x1C90, "A"), (0x1E9E, "Ss"), (0x10400, "E"),
    (0x2003, " "), (0x200B, " "), (0x200D, ""), (0x2013, "-"), (0x2014, "--"), (0x2018, "'"),
    (0x2019, "'"), (0x201C, "\""), (0x201D, "\""), (0x2026, "..."), (0x2028, "\n"),
    (0x3000, " "), (0xFEFF, ""),
    (0x20AC, "EUR"), (0x2122, "tm"), (0x212A, "K"), (0x212B, "A"), (0x2167, "VIII"),
    (0xFB01, "fi"),
    (0x304C, "ga"), (0x306A, "na"), (0x3072, "hi"), (0x3089, "ra"), (0x30AB, "ka"),
    (0x30BF, "ta"), (0x30CA, "na"), (0xAD6D, "gug"), (0xC5B4, "eo"), (0xD55C, "han"),
    (0x4EAC, "Jing "), (0x4EB0, "Jing "), (0x5317, "Bei "), (0x65E5, "Ri "), (0x672C, "Ben "),
    (0x8272, "Se "), (0x8A9E, "Yu "),
    (0x2603, "snowman "), (0x2623, "biohazard "), (0x1F3A8, "art "), (0x1F600, "grinning "),
    (0x1F984, "unicorn ")]

def unknownSpelling : String := "[?]"

end Text
end DesignTokens
