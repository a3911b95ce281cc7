import VolumeMigration.Kubeconfig.Client
import VolumeMigration.Proofs.CanonicalPaths

/-!
# An identity stands for itself

An identity says which kubeconfig and which context a reference stands for. Naming just these two
gives the same identity again, and so does naming one of them and leaving the other as it was. Once
a file is named, it does not matter any more where files would have been looked for
(`Resolver.IsStable`).

Of the file system this takes only that the canonical form of a canonical path is that path. So it
is shown for any view of files of which that holds (`FileView.isStable`), symbolic links, working
directories and unreadable files included, and then for the files of `Surroundings`
(`Identity.resolve_isStable`).
-/

namespace VolumeMigration

/-- What a file system says about the paths that an identity looks at. -/
structure FileView where
  canonical : String → String
  isFile : String → Bool
  currentContext? : String → Option String

/-- Where a kubeconfig is looked for that is not given. -/
structure Places where
  /-- The files of the `KUBECONFIG` variable. -/
  listed : List String := []
  /-- The file of the home directory. -/
  home : Option String := none

namespace FileView

/-- The file behind a kubeconfig that may have been left out. -/
def file? (view : FileView) (places : Places) (kubeconfig : Option String) : Option String :=
  (kubeconfig.or (places.listed.head?.or (places.home.filter view.isFile))).map view.canonical

/-- The kubeconfig file and the context that stand for the given ones. -/
def identity (view : FileView) (places : Places) (kubeconfig context : Option String) :
    Identity where
  kubeconfig := view.file? places kubeconfig
  context := context.or ((view.file? places kubeconfig).bind view.currentContext?)

end FileView

namespace Surroundings

def view (env : Surroundings) : FileView where
  canonical := env.files.canonical
  isFile := env.files.isFile
  currentContext? := Identity.currentContext? env

def places (env : Surroundings) : Places where
  listed := env.listedFiles
  home := env.homeFile?

end Surroundings

/-- In surroundings of some kind, the identity of a kubeconfig and a context. -/
abbrev Resolver (σ : Type) : Type := σ → Option String → Option String → Identity

/-- Identities stand for themselves, under all surroundings that have the same files. -/
structure Resolver.IsStable {σ : Type} (resolve : Resolver σ) (canonical : σ → String → String)
    (SameFiles : σ → σ → Prop) : Prop where
  /-- An identity is resolved to itself. -/
  again : ∀ s kubeconfig context,
    resolve s (resolve s kubeconfig context).kubeconfig (resolve s kubeconfig context).context =
      resolve s kubeconfig context
  /-- One with a file is resolved to itself wherever files are looked for. -/
  elsewhere : ∀ s other kubeconfig context, SameFiles s other →
    (resolve s kubeconfig context).kubeconfig.isSome = true →
      resolve other (resolve s kubeconfig context).kubeconfig
          (resolve s kubeconfig context).context = resolve s kubeconfig context
  /-- The file that a kubeconfig stands for may be named, in any way, and the context too. -/
  namesFile : ∀ s other kubeconfig context path context', SameFiles s other →
    (resolve s kubeconfig context).kubeconfig = some (canonical s path) →
      context' = context ∨ context' = (resolve s kubeconfig context).context →
        resolve other (some path) context' = resolve s kubeconfig context
  /-- The context that a reference stands for may be named. -/
  namesContext : ∀ s kubeconfig context,
    resolve s kubeconfig (resolve s kubeconfig context).context = resolve s kubeconfig context

namespace FileView

variable {view : FileView} {places other : Places} {kubeconfig kubeconfig' context : Option String}

/-- An identity is made of the file and the context, and the context that it finds is as good as
the one that was given. -/
theorem identity_eq {context' : Option String}
    (hfile : view.file? other kubeconfig' = view.file? places kubeconfig)
    (hcontext : context' = context ∨ context' = (view.identity places kubeconfig context).context) :
    view.identity other kubeconfig' context' = view.identity places kubeconfig context := by
  rw [identity, hfile]
  rcases hcontext with rfl | rfl
  · rfl
  · simp only [identity, Option.or_assoc, Option.or_self]

/-- What is the file of one kubeconfig is, when it is given, its own file. -/
theorem file?_of_file? (h : ∀ path, view.canonical (view.canonical path) = view.canonical path)
    {file : String} (hfile : view.file? places kubeconfig = some file) :
    view.file? other (some file) = some file := by
  obtain ⟨path, -, rfl⟩ := Option.map_eq_some_iff.mp hfile
  rw [file?, Option.some_or, Option.map_some, h]

theorem file?_file? (h : ∀ path, view.canonical (view.canonical path) = view.canonical path) :
    view.file? places (view.file? places kubeconfig) = view.file? places kubeconfig := by
  cases hfile : view.file? places kubeconfig with
  | some file => exact file?_of_file? h hfile
  | none =>
    have hnone := Option.map_eq_none_iff.mp hfile
    obtain rfl : kubeconfig = none := (Option.or_eq_none_iff.mp hnone).1
    exact hfile

/-- All that matters is that canonical forms are their own. -/
theorem isStable (h : ∀ path, view.canonical (view.canonical path) = view.canonical path) :
    Resolver.IsStable view.identity (fun _ ↦ view.canonical) fun _ _ ↦ True where
  again _ _ _ := identity_eq (file?_file? h) (Or.inr rfl)
  elsewhere places other kubeconfig context _ hsome := by
    obtain ⟨file, hfile⟩ := Option.isSome_iff_exists.mp hsome
    rw [hfile]
    exact identity_eq ((file?_of_file? h hfile).trans hfile.symm) (Or.inr rfl)
  namesFile _ _ _ _ _ _ _ hfile hcontext := identity_eq hfile.symm hcontext
  namesContext _ _ _ := identity_eq rfl (Or.inr rfl)

end FileView

/-- Under the same files, all that an identity goes by is where files are looked for. -/
theorem Identity.resolve_eq_identity {env other : Surroundings} (h : other.files = env.files) :
    Identity.resolve other = env.view.identity other.places := by
  obtain ⟨files, listing, home, around⟩ := other
  obtain rfl : files = env.files := h
  rfl

/-- Identities stand for themselves, and do so in any file system in which a canonical path is its
own canonical form. -/
theorem Identity.resolve_isStable :
    Resolver.IsStable Identity.resolve (fun env ↦ env.files.canonical)
        (fun env other ↦ other.files = env.files) ∧
      ∀ view : FileView, (∀ path, view.canonical (view.canonical path) = view.canonical path) →
        Resolver.IsStable view.identity (fun _ ↦ view.canonical) fun _ _ ↦ True := by
  refine ⟨?_, fun view ↦ FileView.isStable⟩
  have hstable (env : Surroundings) := env.view.isStable env.files.canonical_canonical
  exact {
    again := fun env kubeconfig context ↦ (hstable env).again env.places kubeconfig context
    elsewhere := fun env other kubeconfig context hfiles hsome ↦ by
      rw [resolve_eq_identity hfiles]
      exact (hstable env).elsewhere env.places other.places kubeconfig context trivial hsome
    namesFile := fun env other kubeconfig context path context' hfiles hfile hcontext ↦ by
      rw [resolve_eq_identity hfiles]
      exact (hstable env).namesFile env.places other.places kubeconfig context path context'
        trivial hfile hcontext
    namesContext := fun env kubeconfig context ↦
      (hstable env).namesContext env.places kubeconfig context }

/-- A file system in which a kubeconfig is reached by a symbolic link. -/
def FileView.linked : FileView where
  canonical path := if path = "/link" then "/kubeconfig" else path
  isFile path := path = "/link" || path = "/kubeconfig"
  currentContext? path := if path = "/kubeconfig" then some "east" else none

/-- A link that is listed stands for the file behind it and the context there, and these stand for
themselves where nothing is listed. -/
theorem Identity.resolve_isStable_linked :
    (∀ path, FileView.linked.canonical (FileView.linked.canonical path) =
        FileView.linked.canonical path) ∧
      FileView.linked.identity { listed := ["/link"] } none none =
        { kubeconfig := some "/kubeconfig", context := some "east" } ∧
      FileView.linked.identity {} (some "/kubeconfig") (some "east") =
        { kubeconfig := some "/kubeconfig", context := some "east" } := by
  have hcanonical (path : String) : FileView.linked.canonical (FileView.linked.canonical path) =
      FileView.linked.canonical path := by
    by_cases h : path = "/link"
    · rw [h]
      decide
    · simp [FileView.linked, h]
  have hlisted : FileView.linked.identity { listed := ["/link"] } none none =
      { kubeconfig := some "/kubeconfig", context := some "east" } := by decide
  refine ⟨hcanonical, hlisted, ?_⟩
  have hagain := (resolve_isStable.2 FileView.linked hcanonical).elsewhere
    { listed := ["/link"] } {} none none trivial (by rw [hlisted]; rfl)
  rwa [hlisted] at hagain

end VolumeMigration
