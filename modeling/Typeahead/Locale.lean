import Typeahead.Text.Case

/-! # Locales

A locale is named by a tag such as `en_US`. Only the language, the part before the first separator,
is ever interpreted; otherwise a tag is an opaque name. -/

namespace Typeahead

/-- A language tag. -/
structure Locale where
  tag : Text
  deriving DecidableEq, Repr, Inhabited

namespace Locale

/-- The empty locale, which is that of no language. -/
def root : Locale := ⟨[]⟩

/-- The locale is the empty one. -/
def isRoot (l : Locale) : Bool := l.tag.isEmpty

/-- A separator of the parts of a tag. -/
def isSeparator (c : Char) : Bool := c == '_' || c == '-'

/-- The language of a locale, in lower case. -/
def language (l : Locale) : Text := Text.lower (l.tag.takeWhile fun c => !isSeparator c)

/-- The tag as it stands in the names of files, with dashes between its parts. -/
def stem (l : Locale) : Text := l.tag.map fun c => if c = '_' then '-' else c

end Locale

end Typeahead
