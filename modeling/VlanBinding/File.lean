/-!
Files, as far as they are read: a path, and what is found there.
-/

namespace VlanBinding

structure File where
  path : String
  /-- the bytes, if there is a file that can be read -/
  content : Option ByteArray

/-- The content, if it is text. -/
def File.text? (file : File) : Option String := file.content.bind String.fromUTF8?

/-- A file with this text. -/
def File.ofText (path text : String) : File := ⟨path, some text.toUTF8⟩

end VlanBinding
