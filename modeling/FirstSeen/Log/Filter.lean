import FirstSeen.Log.Directive
import FirstSeen.Settings.Basic

/-!
The log filter that is in force, and what it lets through. The filter text is the first one that can
be read as a whole: that of the environment, that of the settings, or the default. Events come
without spans, so only directives that name no span and ask for no value of a field decide about
them. Of those that apply to an event the most specific one decides: the one with the longest
target, then the one that names a field; a later directive takes the place of an earlier one for the
same events.
-/
namespace FirstSeen.Log

def filterText (env : Option String) (logging : Logging) : String :=
  let readable (text : String) : Bool := (Directive.readAll text.toList).isSome
  ((env.toList ++ [logging.effectiveFilter]).find? readable).getD Logging.defaultFilter

structure EventRule where
  target : Option (List Char)
  field : Option (List Char)
  threshold : Threshold
  deriving DecidableEq

namespace EventRule

def ofDirective? (d : Directive) : Option EventRule :=
  match d.span, d.field with
  | none, none => some ⟨d.target, none, d.threshold⟩
  | none, some ⟨name, none⟩ => some ⟨d.target, some name, d.threshold⟩
  | _, _ => none

def applies (r : EventRule) (target : String) (names : List String) : Bool :=
  (match r.target with
    | none => true
    | some start => start.isPrefixOf target.toList)
  && (match r.field with
    | none => true
    | some name => names.contains (String.ofList name))

def targetRank (r : EventRule) : Nat :=
  match r.target with
  | none => 0
  | some target => (String.ofList target).utf8ByteSize + 1

/-- Whether the rule is at least as specific as another one. Between two that name a field the names
decide, which is of no consequence but settles the matter. -/
def atLeast (r other : EventRule) : Bool :=
  if r.targetRank ≠ other.targetRank then decide (other.targetRank < r.targetRank)
  else
    match r.field, other.field with
    | _, none => true
    | none, some _ => false
    | some a, some b => decide (String.ofList b ≤ String.ofList a)

def mostSpecific : List EventRule → Option EventRule :=
  List.foldl
    (fun best r =>
      match best with
      | none => some r
      | some b => if r.atLeast b then some r else some b)
    none

end EventRule

structure Filter where
  rules : List EventRule

namespace Filter

/-- Where no directive is given, errors pass. -/
def ofDirectives (directives : List Directive) : Filter :=
  if directives = [] then ⟨[⟨none, none, .upTo .error⟩]⟩
  else ⟨directives.filterMap EventRule.ofDirective?⟩

def ofText (text : String) : Filter := ofDirectives (Directive.readSome text.toList)

def decisive (f : Filter) (e : Event) : Option EventRule :=
  EventRule.mostSpecific (f.rules.filter fun r => r.applies target e.fieldNames)

def enables (f : Filter) (e : Event) : Bool :=
  match f.decisive e with
  | none => false
  | some rule => rule.threshold.admits e.level

theorem decisive_fault (f : Filter) (a b : Level) (error : String) (context : List Field)
    (message : String) :
    f.decisive (.fault a error context message) = f.decisive (.fault b error context message) := rfl

theorem enables_of_le {f : Filter} {a b : Level} {error : String} {context : List Field}
    {message : String} (h : b.verbosity ≤ a.verbosity)
    (ha : f.enables (.fault a error context message) = true) :
    f.enables (.fault b error context message) = true := by
  unfold enables at ha ⊢
  rw [decisive_fault f b a]
  cases hr : f.decisive (.fault a error context message) with
  | none => simp [hr] at ha
  | some rule =>
    rw [hr] at ha
    exact Threshold.admits_of_le h ha

end Filter

end FirstSeen.Log
