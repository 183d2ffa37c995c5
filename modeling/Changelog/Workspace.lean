import Changelog.Property.Scope
import Changelog.Resource.Accessor
import Changelog.Resource.Filter

namespace Changelog

def defaultExtension : String := "changelog"

/-- What a run is made for, and which files of a directory are changelogs. -/
structure Options where
  scope : Scope := .any
  extension : String := defaultExtension

/-- Where changelogs come from, the filters they may name, and the options of the run. -/
structure Workspace where
  accessor : Accessor
  filters : FilterRegistry := .empty
  options : Options := {}

end Changelog
