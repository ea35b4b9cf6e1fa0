/-!
# Record text

The one-line text of a labelled record: its name, then its fields between braces, each as
`label: value`.  A record without fields is its bare name.

* `record` — the text of a record.
* `bracketed` — the text of a list of already printed values, between square brackets.
-/

namespace SequenceKit.Text

/-- The text of one field. -/
def field (f : String × String) : String :=
  f.1 ++ ": " ++ f.2

/-- The text of a record: the name alone when there are no fields, otherwise the name and the
fields between braces. -/
def record (name : String) : List (String × String) → String
  | [] => name
  | fields => name ++ " \x7b " ++ ", ".intercalate (fields.map field) ++ " \x7d"

/-- Printed values between square brackets, separated by commas. -/
def bracketed (values : List String) : String :=
  "[" ++ ", ".intercalate values ++ "]"

end SequenceKit.Text
