/-! The language of the patterns that events are ignored by. Which texts are patterns and what they
are found in is up to whoever runs a client; a client asks, and what is said of it holds for every
language. -/

namespace Telemetry

/-- A language of patterns. -/
class PatternLanguage where
  /-- What a pattern is found in; nothing for a text that is no pattern. -/
  read? : String → Option (String → Bool)

namespace PatternLanguage

/-- Whether a word stands somewhere in a text. -/
def standsIn (word : List Char) : List Char → Bool
  | [] => word.isEmpty
  | c :: cs => word.isPrefixOf (c :: cs) || standsIn word cs

/-- The language of words: letters, digits and blanks are found where they stand, and a text with
any other sign is no pattern. -/
@[reducible] def words : PatternLanguage where
  read? s :=
    if s.toList.all fun c => c.isAlphanum || c == ' ' then
      some fun text => standsIn s.toList text.toList
    else none

end PatternLanguage

end Telemetry
