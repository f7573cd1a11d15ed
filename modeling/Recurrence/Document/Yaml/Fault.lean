namespace Recurrence.Yaml

/-- Why a text has no value. -/
inductive Fault where
  /-- The text is no document, or more than one. -/
  | malformed
  /-- A number without digits or with too many of them, a date that does not exist, or a code beyond the
      last character. -/
  | noSuchValue
  /-- A character's code that takes more than 31 bits. -/
  | codeTooLarge
  /-- A word that is called a truth value and is none. -/
  | noTruthWord
  /-- A numeral without any character. -/
  | emptyNumeral
  /-- A text that is called a date and has not the form of one. -/
  | noDateForm
  /-- More collections are open at once than are kept track of. -/
  | tooDeep
deriving DecidableEq, Repr

end Recurrence.Yaml
