import Propositional.Valuation

/-! The files that a command works with, and the ways in which the operating system refuses an access to them. -/

namespace Propositional

/-- What the operating system says about a failed access. -/
structure OsError where
  description : String
  code : Nat
deriving DecidableEq, Repr

namespace OsError

def notFound : OsError := ⟨"No such file or directory", 2⟩

def notADirectory : OsError := ⟨"Not a directory", 20⟩

def isADirectory : OsError := ⟨"Is a directory", 21⟩

def noSpace : OsError := ⟨"No space left on device", 28⟩

def nameTooLong : OsError := ⟨"File name too long", 36⟩

def message (e : OsError) : String := s!"{e.description} (os error {e.code})"

end OsError

/-- A file that cannot be opened, or can be opened but not read. -/
inductive ReadFailure where
  | opening (e : OsError)
  | reading (e : OsError)
deriving DecidableEq, Repr

def ReadFailure.error : ReadFailure → OsError
  | .opening e => e
  | .reading e => e

/-- Names of files with their contents. -/
structure Directory where
  files : List (String × ByteArray)
deriving Inhabited

namespace Directory

/-- The contents of the file with the name. -/
def get? (d : Directory) (name : String) : Option ByteArray := d.files.lookup name

/-- The directory with the contents of one file set, in the place of the file if there is one. -/
def put (d : Directory) (name : String) (contents : ByteArray) : Directory where
  files := go d.files
where
  go : List (String × ByteArray) → List (String × ByteArray)
    | [] => [(name, contents)]
    | file :: files => if file.1 = name then (name, contents) :: files else file :: go files

theorem lookup_go (name name' : String) (contents : ByteArray) :
    ∀ files,
      (put.go name contents files).lookup name' = if name' = name then some contents else files.lookup name'
  | [] => by simp [put.go, lookup_cons]
  | (name'', contents'') :: files => by
    rw [put.go]
    split
    next h =>
      subst h
      simp only [lookup_cons]
      split <;> rfl
    next h =>
      simp only [lookup_cons, lookup_go name name' contents files]
      by_cases h' : name' = name''
      · simp [h', h]
      · simp [h']

@[simp] theorem get?_put (d : Directory) (name name' : String) (contents : ByteArray) :
    (d.put name contents).get? name' = if name' = name then some contents else d.get? name' :=
  lookup_go name name' contents d.files

end Directory

end Propositional
