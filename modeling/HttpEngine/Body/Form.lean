import HttpEngine.Bytes
import HttpEngine.Params
import HttpEngine.Text.Quoted
import HttpEngine.Uri.Query

/-!
# Forms

A decoded form has plain fields and uploaded files, each in the order of the
body.  A name may belong to fields and to files at the same time.
-/

namespace HttpEngine

structure FileUpload where
  name : String
  filename : Option String
  contentType : Option String
  /-- The number of bytes written to the upload. -/
  size : Nat
  content : Bytes
  deriving DecidableEq, Repr

def FileUpload.describe (upload : FileUpload) : String :=
  "FileUpload \x7b name: " ++ Text.quote upload.name ++ ", filename: " ++
    Text.quoteOption upload.filename ++ ", content_type: " ++
    Text.quoteOption upload.contentType ++ ", size: " ++
      toString upload.size ++ " \x7d"

structure Form where
  fields : Params
  files : List FileUpload
  deriving DecidableEq, Repr

namespace Form

def ofEntries (entries : List (String × String)) (files : List FileUpload) :
    Form :=
  ⟨⟨.form, entries⟩, files⟩

def ofUrlEncoded (bytes : Bytes) : Form := ofEntries (Query.decode bytes) []

def file? (form : Form) (name : String) : Option FileUpload :=
  form.files.find? (·.name == name)

/-- The first value of a field; a name that only files have stands for the name
of the first uploaded file. -/
def get? (form : Form) (name : String) : Option String :=
  match form.fields.get? name with
  | some value => some value
  | none => (form.file? name).bind (·.filename)

def getAll (form : Form) (name : String) : List String :=
  form.fields.getAll name

/-- The names of the fields, then those that only files have. -/
def keys (form : Form) : List String :=
  form.files.foldl
    (fun keys file =>
      if keys.contains file.name then keys else keys ++ [file.name])
    form.fields.keys

def describe (form : Form) : String :=
  "FormParams \x7b fields: " ++ form.fields.describe ++ ", files: [" ++
    ", ".intercalate (form.files.map FileUpload.describe) ++ "] \x7d"

end Form

end HttpEngine
