import SpritePack.Log.Directive

namespace SpritePack.Log

/-!
# Log filters

A filter is a list of directives. Of those that are about a record, the most
specific decides: a longer name of the part before a shorter one, then one that
asks for a detail before one that does not, and the last one given among equals.
Directives that name an activity or a detail of one open it for all that happens
in it.
-/

/-- What directives see of a record or an activity before it is shown. -/
structure Occasion where
  level : Level
  /-- The name, if this is an activity. -/
  activity : Option String
  fields : List String
  deriving Repr, DecidableEq

/-- An event as directives see it. -/
def Event.occasion (event : Event) : Occasion where
  level := event.level
  activity := none
  fields := "message" :: event.fields.map Prod.fst

/-- The conversion of a picture as directives see it. -/
def conversionOccasion : Occasion where
  level := .info
  activity := some conversionName
  fields := [conversionField]

/-- How talkative the log is about which records. -/
structure Filter where
  directives : List Directive
  deriving Repr, DecidableEq

namespace Directive

/-- Whether a directive is about this program. -/
def namesOrigin (directive : Directive) : Bool :=
  match directive.target with
  | none => true
  | some target => target.toList.isPrefixOf origin.toList

/-- Whether an occasion has the detail that a directive asks for, if any, whatever its value. -/
def asksFor
    (directive : Directive)
    (occasion : Occasion) :
    Bool :=
  directive.field.all fun field => occasion.fields.contains field.name

/-- Whether a directive says the same in whatever activity and for whatever value. -/
def isStatic (directive : Directive) : Bool :=
  directive.activity.isNone && directive.field.all (·.value.isNone)

/-- Whether a directive is, by itself, about an occasion. Activities need not have the detail. -/
def concerns
    (directive : Directive)
    (occasion : Occasion) :
    Bool :=
  directive.isStatic && directive.namesOrigin &&
    (occasion.activity.isSome || directive.asksFor occasion)

/-- Whether a directive may open an activity for what happens in it. -/
def mayOpen
    (directive : Directive)
    (occasion : Occasion) :
    Bool :=
  (directive.activity.isSome || directive.field.isSome) &&
    directive.namesOrigin &&
    (directive.activity.isNone || directive.activity == occasion.activity) &&
    directive.asksFor occasion

/-- Whether the detail that a directive asks for has the value it asks for, if any. -/
def agrees
    (directive : Directive)
    (input : Path) :
    Bool :=
  directive.field.all fun field => field.value.all (·.admits input.shown)

/-- The length of the name of the part, where no name at all is shorter than any. -/
def targetRank (directive : Directive) : Nat :=
  match directive.target with
  | none => 0
  | some target => target.utf8ByteSize + 1

/-- The name of the detail that a directive asks for. -/
def fieldName? (directive : Directive) : Option String :=
  directive.field.map FieldCondition.name

/--
Whether a directive is at least as specific as another. If both ask for a
detail, the name that is later in byte order counts as more specific.
-/
def isAsSpecificAs (first second : Directive) : Bool :=
  if first.targetRank = second.targetRank then
    match first.fieldName?, second.fieldName? with
    | _, none => true
    | none, some _ => false
    | some firstName, some secondName =>
        decide (Utf8.encode secondName ≤ Utf8.encode firstName)
  else
    second.targetRank < first.targetRank

/-- Whether two directives are about the same records. -/
def isAlike (first second : Directive) : Bool :=
  first.target == second.target && first.activity == second.activity &&
    first.field == second.field

/-- The directives without those that a later one takes the place of. -/
def lastOfAlike : List Directive → List Directive
  | [] => []
  | directive :: rest =>
      if rest.any directive.isAlike then
        lastOfAlike rest
      else
        directive :: lastOfAlike rest

end Directive

namespace Filter

/-- The directive that decides on an occasion. -/
def deciding?
    (filter : Filter)
    (occasion : Occasion) :
    Option Directive :=
  (filter.directives.filter (·.concerns occasion)).foldl
    (fun best directive =>
      match best with
      | none => some directive
      | some chosen =>
          if directive.isAsSpecificAs chosen then some directive else best)
    none

/-- Whether an occasion is shown on its own account. -/
def shows
    (filter : Filter)
    (occasion : Occasion) :
    Bool :=
  match filter.deciding? occasion with
  | none => false
  | some directive => occasion.level.verbosity ≤ directive.threshold

/-- The directives that may open the conversion of a picture, of those alike only the last. -/
def openers (filter : Filter) : List Directive :=
  (Directive.lastOfAlike filter.directives).filter (·.mayOpen conversionOccasion)

/-- Whether records say to which conversion they belong. -/
def showsConversion (filter : Filter) : Bool :=
  !filter.openers.isEmpty || filter.shows conversionOccasion

/-- Whether an event in the conversion of a picture is shown on the conversion's account. -/
def opens
    (filter : Filter)
    (input : Path)
    (event : Event) :
    Bool :=
  filter.openers.any fun directive =>
    directive.agrees input && event.level.verbosity ≤ directive.threshold

/-- The record as the log shows it, if it does. -/
def view?
    (filter : Filter)
    (record : Record) :
    Option Record :=
  let shown := filter.shows record.event.occasion
  match record.conversion with
  | none => if shown then some record else none
  | some input =>
      if filter.showsConversion then
        if shown || filter.opens input record.event then some record else none
      else if shown then
        some { record with conversion := none }
      else
        none

/-- The filter that shows this program's records up to a level. -/
def upTo (level : Level) : Filter where
  directives := [{ threshold := level.verbosity, target := some origin }]

/-- The filter that a list of directives, separated by commas, spells. No directives show errors. -/
def parse? (text : String) : Option Filter := do
  let pieces := (text.splitOn ",").filter (· != "")
  let directives ← pieces.mapM Directive.parse?
  if directives.isEmpty then
    some ⟨[{ threshold := Level.error.verbosity }]⟩
  else
    some ⟨directives⟩

/-- The filter of a run: what the user has set, if that is valid, or else up to a level. -/
def forRun
    (setting : Option String)
    (verbose : Bool) :
    Filter :=
  match setting.bind parse? with
  | some filter => filter
  | none => upTo (if verbose then .debug else .info)

end Filter

end SpritePack.Log
