import TomtitAgent.Conversation.ProfileMemory

/-!
# `collect_profile_snapshot`

The confirmed profile records in the order of their creation, read one by one into a
`ProfileSnapshot`.  `profileSlots` is the chain of tests on subject and relation: each relation
fills its own field of the snapshot.
-/

namespace Tomtit
open Py

structure ProfileSnapshot where
  name : Option PyStr := none
  occupation : List PyStr := []
  skills : List PyStr := []
  learning : List PyStr := []
  goals : List PyStr := []
  marryTargets : List PyStr := []
  eatDesires : List PyStr := []
  todayIntentions : List PyStr := []
  preferencesPersonal : List PyStr := []
  preferencesProfessional : List PyStr := []
  habits : List PyStr := []
  pets : List PyStr := []
  relations : List (PyStr × PyStr) := []
  dislikes : List PyStr := []
  affections : List PyStr := []
  externalAffections : List PyStr := []
  negativeAffections : List PyStr := []
  negativeExternalAffections : List PyStr := []
  previousNames : List PyStr := []
  negativeSkills : List PyStr := []
  negativeGoals : List PyStr := []
  currentFocus : Option PyStr := none
  favoriteFood : Option PyStr := none
  favoriteGeneral : Option PyStr := none
  comparatives : List (PyStr × PyStr) := []

inductive ProfileSlot where
  | name | negativePreference | affection | negativeAffection | externalAffection
  | negativeExternalAffection | occupation | skill | negativeSkill | learning | goal | negativeGoal
  | marry | eat | today | focus | favorite | comparative | preference | habit | pet | relation
deriving DecidableEq, Repr

/-- The subject and the relation of each slot, in the order of the tests. -/
def profileSlots : List (PyStr × PyStr × ProfileSlot) :=
  [(self, py "name", .name), (self, py "negative_preference", .negativePreference),
    (self, py "affection", .affection), (self, py "negative_affection", .negativeAffection),
    (py "external", py "affection_to_user", .externalAffection),
    (py "external", py "affection_to_user_negative", .negativeExternalAffection),
    (self, py "occupation", .occupation), (self, py "skill", .skill),
    (self, py "negative_skill", .negativeSkill), (self, py "learning_focus", .learning),
    (self, py "goal", .goal), (self, py "negative_goal", .negativeGoal),
    (self, py "wants_to_marry", .marry), (self, py "wants_to_eat", .eat),
    (self, py "temporal_today", .today), (self, py "goal_focus", .focus),
    (self, py "favorite", .favorite), (self, py "comparative", .comparative),
    (self, py "preference", .preference), (self, py "habit", .habit),
    (self, py "household_pet", .pet), (py "relation", py "name", .relation)]

def MemoryRecord.slot? (r : MemoryRecord) : Option ProfileSlot :=
  (profileSlots.find? fun row => r.concerns row.1 row.2.1).map fun row => row.2.2

section
variable (env : MemoryEnv)

/-- `_norm_cmp` with the Unicode of the environment. -/
abbrev MemoryEnv.norm (env : MemoryEnv) (value : PyStr) : PyStr := normCmp env.toUnicode value

/-- `_add`: append a value that no value of the list equals under `_norm_cmp`. -/
def addValue (bucket : List PyStr) (val : PyStr) : List PyStr :=
  if env.norm val ∈ bucket.map env.norm then bucket else bucket ++ [val]

/-- `if pair not in pairs: pairs.append(pair)` -/
def addPair (pairs : List (PyStr × PyStr)) (pair : PyStr × PyStr) : List (PyStr × PyStr) :=
  if pair ∈ pairs then pairs else pairs ++ [pair]

def fillSlot (snap : ProfileSnapshot) (md : Metadata) (val : PyStr) :
    ProfileSlot → ProfileSnapshot
  | .name =>
    match snap.name with
    | some (c :: cs) =>
      if env.norm (c :: cs) ≠ env.norm val then
        { snap with previousNames := addValue env snap.previousNames (c :: cs), name := some val }
      else { snap with name := some val }
    | _ => { snap with name := some val }
  | .negativePreference => { snap with dislikes := addValue env snap.dislikes val }
  | .affection =>
    { snap with affections := addValue env snap.affections (canonicalPersonName env.toUnicode val) }
  | .negativeAffection => { snap with
      negativeAffections :=
        addValue env snap.negativeAffections (canonicalPersonName env.toUnicode val) }
  | .externalAffection => { snap with
      externalAffections :=
        addValue env snap.externalAffections (canonicalPersonName env.toUnicode val) }
  | .negativeExternalAffection => { snap with
      negativeExternalAffections :=
        addValue env snap.negativeExternalAffections (canonicalPersonName env.toUnicode val) }
  | .occupation => { snap with occupation := addValue env snap.occupation val }
  | .skill => { snap with skills := addValue env snap.skills val }
  | .negativeSkill => { snap with negativeSkills := addValue env snap.negativeSkills val }
  | .learning => { snap with learning := addValue env snap.learning val }
  | .goal => { snap with goals := addValue env snap.goals val }
  | .negativeGoal => { snap with negativeGoals := addValue env snap.negativeGoals val }
  | .marry => { snap with marryTargets := addValue env snap.marryTargets val }
  | .eat => { snap with eatDesires := addValue env snap.eatDesires val }
  | .today =>
    if md.is (py "date_scope") env.today then
      { snap with todayIntentions := addValue env snap.todayIntentions val }
    else snap
  | .focus => { snap with currentFocus := some val, goals := addValue env snap.goals val }
  | .favorite =>
    if md.is (py "favorite_domain") (py "food") then { snap with favoriteFood := some val }
    else { snap with favoriteGeneral := some val }
  | .comparative =>
    { snap with comparatives := addPair snap.comparatives (val, md.text (py "compared_to") []) }
  | .preference =>
    if isPollutedPreference env.toUnicode val then snap
    else if md.is (py "preference_kind") (py "professional") then
      { snap with preferencesProfessional := addValue env snap.preferencesProfessional val }
    else { snap with preferencesPersonal := addValue env snap.preferencesPersonal val }
  | .habit => { snap with habits := addValue env snap.habits val }
  | .pet => { snap with pets := addValue env snap.pets val }
  | .relation => { snap with
      relations :=
        addPair snap.relations (md.text (py "relation_label") (py "người liên quan"), val) }

/-- The body of the loop: a record without a value, or with a dirty one, is left out. -/
def readRecord (snap : ProfileSnapshot) (r : MemoryRecord) : ProfileSnapshot :=
  let val := r.metadata.value
  if val = [] then snap
  else if !r.metadata.is (py "relation") (py "comparative") && isDirtyValue env.toUnicode val then snap
  else match r.slot? with
    | none => snap
    | some slot => fillSlot env snap r.metadata val slot

def settleSnapshot (snap : ProfileSnapshot) : ProfileSnapshot :=
  let previousNames := match snap.name with
    | some (c :: cs) => snap.previousNames.filter fun n => env.norm n ≠ env.norm (c :: cs)
    | _ => snap.previousNames
  let negativeSkills := snap.negativeSkills.filter fun s => env.norm s ∉ snap.skills.map env.norm
  let skills := if snap.negativeSkills = [] then snap.skills
    else snap.skills.filter fun s => env.norm s ∉ negativeSkills.map env.norm
  let currentFocus := match snap.currentFocus with
    | some (c :: cs) => if env.norm (c :: cs) ∉ snap.goals.map env.norm then none else some (c :: cs)
    | focus => focus
  { snap with
    previousNames := previousNames
    negativeSkills := negativeSkills
    skills := skills
    currentFocus := currentFocus
    preferencesPersonal :=
      (snap.comparatives.map Prod.fst).foldl (addValue env) snap.preferencesPersonal }

/-- The records that the snapshot reads, in the order it reads them. -/
def confirmedRecords (w : World) : List MemoryRecord :=
  ((w.profileRecords env .fact 200 ++ w.profileRecords env .preference 200).filter
    fun r => r.metadata.confirmedProfile).insertionSort fun a b => a.createdAt ≤ b.createdAt

def collectProfileSnapshot (w : World) : ProfileSnapshot :=
  settleSnapshot env ((confirmedRecords env w).foldl (readRecord env) {})

end

end Tomtit
