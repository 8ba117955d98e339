/-!
# Settings

What a layout source calls its declarations: the names that make one the entry point, the ending of
every declaration's name, the namespace its chain starts with, a hint at which one contains the
others, and how deep chains may nest.
-/

namespace SlideContract

/-- The settings of a compilation. -/
structure Settings where
  entryNames : List String := ["Schema", "slideSchema", "SlideSchema"]
  nameSuffix : String := "Schema"
  builderNamespace : String := "z"
  containerHint : String := "slide"
  maxDepth : Int := 32
  deriving DecidableEq, Repr, Inhabited

end SlideContract
