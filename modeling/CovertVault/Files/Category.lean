import CovertVault.Text.Case

namespace CovertVault.Files

inductive Category where
  | image | video | audio | document | other
deriving Repr, DecidableEq

def Category.name : Category → String
  | .image => "image"
  | .video => "video"
  | .audio => "audio"
  | .document => "document"
  | .other => "other"

/-- The extensions of a category; all that are in no list are of the last one. -/
def Category.extensions : Category → List String
  | .image => ["jpg", "jpeg", "png", "gif", "bmp", "webp"]
  | .video => ["mp4", "avi", "mkv", "mov", "wmv", "flv", "webm"]
  | .audio => ["mp3", "wav", "aac", "flac", "ogg", "m4a"]
  | .document => ["pdf", "doc", "docx", "xls", "xlsx", "ppt", "pptx", "txt", "rtf"]
  | .other => []

/-- Whether an extension, in any case, is in a category's list. -/
def Category.holds (k : Category) (ext : String) : Bool :=
  k.extensions.contains (String.ofList (Text.lower ext.toList))

/-- The first category that lists an extension. -/
def category (ext : String) : Category :=
  ([.image, .video, .audio, .document].find? fun k : Category => k.holds ext).getD .other

end CovertVault.Files
