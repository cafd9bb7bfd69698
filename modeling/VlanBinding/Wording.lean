/-!
Some messages end in the words of whatever read a text or a file. Which words those are does not
belong to the message, so they are given from outside.
-/

namespace VlanBinding

/-- What is said of a text or a file that something else could not make sense of. -/
structure Wording where
  json : String := "not valid JSON"
  yaml : String := "not a single YAML document"
  uuid : String := "not a UUID"
  io : String := "cannot be read"
  tls : String := "not a certificate"
  transport : String := "no answer"

end VlanBinding
