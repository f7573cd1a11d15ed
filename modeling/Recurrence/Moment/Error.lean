import Recurrence.Iso.Basic
import Recurrence.Value

namespace Recurrence

/-- Why a zone, an instant or a time of day cannot be made out. -/
inductive TimeError where
  /-- No name at all: not a text, or a blank one. -/
  | zoneInvalid (name : Value)
  | zoneUnknown (name : String)
  | civilUnreadable (value : Value)
  | civilInvalid (text : String) (cause : CivilError)
  | instantUnreadable (text : String) (cause : Iso.Error)
  | clockInvalid (value : Value)
  | clockUnreadable (text : String) (cause : Iso.Error)

/-- The wording of an error. -/
def TimeError.message : TimeError → String
  | .zoneInvalid name => s!"Invalid time zone identifier: {name.shown}"
  | .zoneUnknown name => s!"Unknown time zone: {name}"
  | .civilUnreadable value => s!"Unable to parse civil date/time: {value.shown}"
  | .civilInvalid text cause => s!"Invalid civil date/time {Text.quoted text}: {cause.message}"
  | .instantUnreadable text cause => s!"Failed to parse ISO datetime '{text}': {cause.message}"
  | .clockInvalid value => s!"Invalid reference time: {value.shown}"
  | .clockUnreadable text cause => s!"Failed to parse reference time '{text}': {cause.message}"

end Recurrence
