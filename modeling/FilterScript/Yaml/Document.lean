import FilterScript.Host
import FilterScript.Yaml.Meaning

/-!
# Files of values

What the files of a host mean: a file of text means what its text means.
-/

namespace FilterScript

/-- The value that a document means. -/
def Document.value : Document → Except Fault Value
  | .data v => .ok v
  | .text s => Yaml.read s
  | .undecodable => .error .undecodable
  | .locked => .error .unreadable

/-- The value that the file at a path means. -/
def Host.readValue (h : Host) (path : String) : Except Fault Value :=
  if path.toList.contains '\x00' then .error .nullInPath
  else
    match h.document? path with
    | some document => document.value
    | none => .error .unreadable

/-- A value that stands in the file at a path is read there. -/
theorem Host.readValue_of_walk {host : Host} {path : String} {place : List String} {v : Value}
    (leads : host.walk? path = some place) (there : host.files.content? place = some (.data v)) :
    host.readValue path = .ok v := by
  have sound : ¬path.toList.contains '\x00' = true := by
    intro null
    rw [Host.walk?, if_pos null] at leads
    cases leads
  unfold Host.readValue Host.document?
  rw [if_neg sound, leads, Option.bind_some, there]
  rfl

/-- A path leads to a file if what is opened there is anything. -/
theorem Host.leadsToFile_of_document? {host : Host} {path : String} {document : Document}
    (held : host.document? path = some document) : host.leadsToFile path = true := by
  unfold Host.document? at held
  unfold Host.leadsToFile
  cases found : (host.walk? path).bind host.files.content? with
  | none =>
    rw [found] at held
    cases held
  | some content => rfl

/-- A path leads to a file if a value is read there. -/
theorem Host.leadsToFile_of_readValue {host : Host} {path : String} {v : Value}
    (read : host.readValue path = .ok v) : host.leadsToFile path = true := by
  unfold Host.readValue at read
  split at read
  · cases read
  · split at read
    · next held => exact Host.leadsToFile_of_document? held
    · cases read

end FilterScript
