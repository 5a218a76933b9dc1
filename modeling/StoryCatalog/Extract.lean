import StoryCatalog.Chain.Story
import StoryCatalog.Script.Concrete.Module
import StoryCatalog.Script.Strict.Module
import StoryCatalog.Syntax.Cst

/-!
# Stories of a source text by either reader

The stories of a source, given the tree that a reader made of it. A concrete tree is refused when it
is marked as faulty or holds an escape that strict code does not allow.
-/

namespace StoryCatalog

/-- Why no stories could be read. -/
inductive ExtractError where
  | parse (error : ParseError)
  | location (error : LocationError)
  | rangeMissing
  | reference (fault : Script.Strict.ReferenceFault)
  | unknownBackend (name : String)
deriving DecidableEq, Repr

/-- A location error is an error of extraction. -/
def ExtractError.ofLocation {α : Type} : Except LocationError α → Except ExtractError α
  | .ok value => .ok value
  | .error e => .error (.location e)

/-- The stories of a concrete tree over its source. -/
def Cst.stories (pattern : Pattern) (source : Text) (root : Cst) :
    Except ExtractError (List Story) :=
  let bytes := source.utf8
  match root.check bytes with
  | .error e => .error (.parse e)
  | .ok () => ExtractError.ofLocation ((Cst.view bytes).storiesByPoint pattern bytes root)

/-- A node whose span was asked for and which has none. -/
def Estree.lacksRange (value : Estree) : Bool :=
  !value.isNull && value.range?.isNone

/-- The stories of an attribute tree over its source. -/
def Estree.stories (pattern : Pattern) (source : Text) (root : Estree) :
    Except ExtractError (List Story) :=
  if (Estree.view.walk pattern root).consulted.any Estree.lacksRange then .error .rangeMissing
  else ExtractError.ofLocation (Estree.view.storiesByOffset pattern source root)

/-- What was read from a source text: how many chains it has, and their stories. -/
structure Extraction where
  chainCount : Nat
  stories : List Story
deriving DecidableEq, Repr

/-- The chains of a concrete tree, with their stories. -/
def Cst.extraction (pattern : Pattern) (source : Text) (root : Cst) :
    Except ExtractError Extraction := do
  let stories ← root.stories pattern source
  return ⟨((Cst.view source.utf8).walk pattern root).found.length, stories⟩

/-- The chains of an attribute tree, with their stories. -/
def Estree.extraction (pattern : Pattern) (source : Text) (root : Estree) :
    Except ExtractError Extraction := do
  let stories ← root.stories pattern source
  return ⟨(Estree.view.walk pattern root).found.length, stories⟩

/-- The readers that a source text can be given to. -/
inductive Backend where
  | concrete
  | strict
deriving DecidableEq, Repr

namespace Backend

/-- The name by which a reader is chosen. -/
def name : Backend → String
  | .concrete => "treesitter"
  | .strict => "esprima"

/-- The readers in the order of their names. -/
def all : List Backend := [.strict, .concrete]

/-- The reader with a name. -/
def ofName? (name : String) : Option Backend :=
  all.find? fun backend => backend.name == name

/-- What is said of a name that no reader has. -/
def unknownMessage (name : String) : String :=
  "Unknown parser backend '" ++ name ++ "'. Valid backends: "
    ++ ", ".intercalate (all.map Backend.name)

end Backend

/-- The error in words. -/
def ExtractError.message : ExtractError → Text
  | .parse error => error.message
  | .location error => error.message
  | .rangeMissing => "cannot unpack non-iterable NoneType object"
  | .reference fault => fault.message
  | .unknownBackend name => Backend.unknownMessage name

/-- Read the stories of a source text. -/
def extract (backend : Backend) (pattern : Pattern) (source : String) :
    Except ExtractError Extraction :=
  match backend with
  | .concrete => (Script.Concrete.read source).extraction pattern source
  | .strict =>
      match Script.Strict.readModule source with
      | .error (.refused e) => .error (.parse e)
      | .error (.reference fault) => .error (.reference fault)
      | .ok root => root.extraction pattern source

/-- Read the stories of a source text, by the reader with a name. -/
def extractBy (backend : String) (pattern : Pattern) (source : String) :
    Except ExtractError Extraction :=
  match Backend.ofName? backend with
  | some backend => extract backend pattern source
  | none => .error (.unknownBackend backend)

end StoryCatalog
