import Changelog.Resource.Accessor

namespace Changelog

/-- Resources by path; one that holds no text has none.  A listing is given as it was made. -/
structure MemoryResources where
  texts : List (String × Option String)
  listings : List (String × List String)

namespace MemoryResources

def read (resources : MemoryResources) (path : String) : Except ResourceError String :=
  match resources.texts.lookup path with
  | none => .error .unknownResource
  | some none => .error .undecodable
  | some (some text) => .ok text

def list (resources : MemoryResources) (path : String) : Except ResourceError (List String) :=
  match resources.listings.lookup path with
  | some paths => .ok paths
  | none => .error .unknownDirectory

theorem mem_texts_of_read {resources : MemoryResources} {path text : String}
    (h : resources.read path = .ok text) : path ∈ resources.texts.map Prod.fst := by
  unfold read at h
  split at h
  · cases h
  · cases h
  · next t hl =>
    obtain ⟨l₁, l₂, heq, -⟩ := List.lookup_eq_some_iff.1 hl
    simp [heq]

def accessor (resources : MemoryResources) : Accessor where
  read := resources.read
  list := resources.list
  has := fun path => (resources.texts.lookup path).isSome
  readable := resources.texts.map fun entry => Path.key entry.1
  key_mem_readable := by
    intro path text h
    obtain ⟨entry, hm, he⟩ := List.mem_map.1 (mem_texts_of_read h)
    exact List.mem_map.2 ⟨entry, hm, by rw [he]⟩

end MemoryResources

end Changelog
