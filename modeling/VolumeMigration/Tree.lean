import VolumeMigration.Double

/-!
# Trees of values

The data that programs exchange as YAML or JSON: chart values handed to helm, kubeconfig
files, objects of the Kubernetes API. Numbers are whole or of double precision. A map holds
its entries in some order, which has no meaning.
-/

namespace VolumeMigration

/-- A tree of values. -/
inductive Tree where
  | null
  | bool (b : Bool)
  | int (n : Int)
  | real (x : Double)
  | string (s : String)
  | list (items : List Tree)
  | map (entries : List (String × Tree))
  deriving Repr

namespace Tree

instance : Inhabited Tree := ⟨null⟩

/-- The value of a key; a tree that is no map has no keys, and what is missing is null. -/
def get (t : Tree) (key : String) : Tree :=
  match t with
  | map entries => (entries.lookup key).getD null
  | _ => null

/-- The value behind several keys, one below the other. -/
def path (t : Tree) (keys : List String) : Tree := keys.foldl get t

/-- The text of a string. -/
def string? : Tree → Option String
  | string s => some s
  | _ => none

/-- The value of a whole number. -/
def int? : Tree → Option Int
  | int n => some n
  | _ => none

/-- The items of a list; everything else has none. -/
def items : Tree → List Tree
  | list items => items
  | _ => []

/-- A string, or null where there is none. -/
def ofString? : Option String → Tree
  | some s => string s
  | none => null

/-- Whether a tree is null. -/
def isNull : Tree → Bool
  | null => true
  | _ => false

end Tree

end VolumeMigration
