import Courier.Diagnostics.Reading

/-!
# Filters

A filter is made of directives (`Filter.ofText`). They are written with commas between
them; what is no directive is ignored. The static and the dynamic ones are kept apart, each
from the most specific on. A directive that asks for a field but not for its value is both.
A filter without directives leaves errors only.
-/

namespace Courier.Diagnostics

/-- The directives of a filter, from the most specific on. -/
structure Filter where
  statics : List Directive
  dynamics : List Directive
deriving DecidableEq, Inhabited

namespace Filter

/-- The filter with these directives. -/
def ofDirectives (ds : List Directive) : Filter :=
  let (dynamics, others) := ds.partition Directive.isDynamic
  { statics := Directive.ranked (others ++ dynamics.filter Directive.isStatic)
    dynamics := Directive.ranked dynamics }

/-- The filter that a text spells. -/
def ofText (s : String) : Filter :=
  match (splitAll ',' s).filterMap Directive.read? with
  | [] => ofDirectives [{ level := .error }]
  | ds => ofDirectives ds

/-- **The text of a filter.** -/
def text (f : Filter) : String :=
  String.intercalate "," ((f.statics ++ f.dynamics).map Directive.text)

end Filter

end Courier.Diagnostics
