/-
This file proves that an empty value counts as unset unless it hides a value of a layer behind it.
-/

import DocumentQuery.Proofs.Service.Credentials
import DocumentQuery.Proofs.Table

namespace DocumentQuery

namespace Environment

variable {environment : Environment} {depth : Nat} {name : String}

/-- The layers are counted from the nearest one. -/
def without (environment : Environment) (depth : Nat) (name : String) : Environment :=
  match depth with
  | 0 => { environment with values := environment.values.without name }
  | place + 1 =>
      { environment with
        fallbacks := environment.fallbacks.modify place fun layer => layer.without name }

/-- These are the layers that are farther than the depth. -/
def behind (environment : Environment) (depth : Nat) : Environment :=
  ⟨[], environment.layers.drop (depth + 1)⟩

/-- The layer at this depth lists the variable with an empty value. -/
def Empties (environment : Environment) (depth : Nat) (name : String) : Prop :=
  ∃ layer, environment.layers[depth]? = some layer ∧ Table.entry? layer name = some ""

/-- No nearer layer lists the variable, and the layers behind this one provide the value. -/
structure Hides (environment : Environment) (depth : Nat) (name value : String) : Prop where
  emptied : environment.Empties depth name
  nearest : ∀ nearer ∈ environment.layers.take depth, Table.entry? nearer name = none
  hidden : (environment.behind depth).Provides name value

/-- Taking a variable out changes one layer. -/
theorem layers_without (environment : Environment) (depth : Nat) (name : String) :
    (environment.without depth name).layers =
      environment.layers.modify depth fun layer => layer.without name := by
  cases depth <;> rfl

/-- The nearer layers are asked before a layer, and those behind it are asked after it. -/
theorem value?_of_layers {before after : List (Table String)} {layer : Table String}
    (layered : environment.layers = before ++ layer :: after) (name : String) :
    environment.value? name =
      (before.findSome? fun nearer => Table.entry? nearer name).or
        ((Table.entry? layer name).or
          (after.findSome? fun farther => Table.entry? farther name)) := by
  rw [value?, layered, List.findSome?_append, List.findSome?_cons]
  cases Table.entry? layer name <;> rfl

theorem value?_behind (environment : Environment) (depth : Nat) (name : String) :
    (environment.behind depth).value? name =
      (environment.layers.drop (depth + 1)).findSome? fun farther => Table.entry? farther name :=
  rfl

/-- A value comes from the nearer layers, from this one or from those behind it, in this order. -/
theorem value?_split {layer : Table String} (located : environment.layers[depth]? = some layer)
    (name : String) :
    environment.value? name =
      ((environment.layers.take depth).findSome? fun nearer => Table.entry? nearer name).or
        ((Table.entry? layer name).or ((environment.behind depth).value? name)) := by
  obtain ⟨inside, rfl⟩ := List.getElem?_eq_some_iff.mp located
  rw [value?_behind]
  apply value?_of_layers
  rw [← List.drop_eq_getElem_cons inside, List.take_append_drop]

/-- Without the variable, its layer passes the question on to those behind it. -/
theorem value?_without {layer : Table String} (located : environment.layers[depth]? = some layer)
    (name other : String) :
    (environment.without depth name).value? other =
      ((environment.layers.take depth).findSome? fun nearer => Table.entry? nearer other).or
        ((Table.entry? (layer.without name) other).or
          ((environment.behind depth).value? other)) := by
  obtain ⟨inside, rfl⟩ := List.getElem?_eq_some_iff.mp located
  rw [value?_behind]
  apply value?_of_layers
  rw [layers_without, List.modify_eq_take_cons_drop inside]

/-- Every other variable keeps its value. -/
theorem nonEmpty?_without_other (emptied : environment.Empties depth name) {other : String}
    (different : other ≠ name) :
    (environment.without depth name).nonEmpty? other = environment.nonEmpty? other := by
  obtain ⟨layer, located, _⟩ := emptied
  rw [nonEmpty?, nonEmpty?, value?_without located, Table.entry_without_other layer different,
    value?_split located]

section Nearest

variable (emptied : environment.Empties depth name)
  (nearest : ∀ nearer ∈ environment.layers.take depth, Table.entry? nearer name = none)

include emptied nearest

/-- An empty value that no nearer layer replaces is found as no value. -/
theorem nonEmpty?_emptied : environment.nonEmpty? name = none := by
  obtain ⟨layer, located, empty⟩ := emptied
  rw [nonEmpty?, value?_split located, List.findSome?_eq_none_iff.mpr nearest, empty]
  rfl

/-- Without the empty value, the layers behind it decide. -/
theorem nonEmpty?_uncovered :
    (environment.without depth name).nonEmpty? name =
      (environment.behind depth).nonEmpty? name := by
  obtain ⟨layer, located, empty⟩ := emptied
  rw [nonEmpty?, value?_without located, List.findSome?_eq_none_iff.mpr nearest,
    Table.entry_without, nonEmpty?]
  rfl

end Nearest

/-- A hidden value is found as soon as the empty one is taken out. -/
theorem Hides.uncovered {value : String} (hides : environment.Hides depth name value) :
    environment.nonEmpty? name = none ∧
      (environment.without depth name).nonEmpty? name = some value := by
  refine ⟨nonEmpty?_emptied hides.emptied hides.nearest, ?_⟩
  rw [nonEmpty?_uncovered hides.emptied hides.nearest]
  exact nonEmpty?_eq_some_iff.mpr hides.hidden

/-- An empty value that hides nothing can be taken out. -/
theorem nonEmpty?_without_self (emptied : environment.Empties depth name)
    (exposed : ¬∃ value, environment.Hides depth name value) :
    (environment.without depth name).nonEmpty? name = environment.nonEmpty? name := by
  cases found : (environment.layers.take depth).findSome? fun nearer =>
      Table.entry? nearer name with
  | some value =>
      obtain ⟨layer, located, _⟩ := emptied
      rw [nonEmpty?, nonEmpty?, value?_without located, value?_split located, found]
      rfl
  | none =>
      have nearest := List.findSome?_eq_none_iff.mp found
      rw [nonEmpty?_uncovered emptied nearest, nonEmpty?_emptied emptied nearest]
      cases provided : (environment.behind depth).nonEmpty? name with
      | none => rfl
      | some value =>
          have hides : environment.Hides depth name value :=
            ⟨emptied, nearest, nonEmpty?_eq_some_iff.mp provided⟩
          exact absurd ⟨value, hides⟩ exposed

/-- An empty value counts as unset except where it hides one. -/
theorem nonEmpty?_without_iff (emptied : environment.Empties depth name) (other : String) :
    (environment.without depth name).nonEmpty? other = environment.nonEmpty? other ↔
      ¬(other = name ∧ ∃ value, environment.Hides depth name value) := by
  constructor
  · rintro unchanged ⟨rfl, value, hides⟩
    obtain ⟨before, after⟩ := hides.uncovered
    rw [before, after] at unchanged
    cases unchanged
  · intro apart
    by_cases same : other = name
    · subst same
      exact nonEmpty?_without_self emptied fun hides => apart ⟨rfl, hides⟩
    · exact nonEmpty?_without_other emptied same

end Environment

namespace Connection

variable {environment other : Environment}

/-- A variable is looked up when the variables before it are set. -/
def LooksUp (environment : Environment) (name : String) : Prop :=
  name = endpointVariable ∨ environment.Sets endpointVariable ∧
    (name = databaseVariable ∨ environment.Sets databaseVariable ∧
      (name = keyVariable ∨ name = clientVariable))

/-- A required variable depends on its own value only. -/
theorem requiredVariable_congr {name : String}
    (same : other.nonEmpty? name = environment.nonEmpty? name) :
    requiredVariable other name = requiredVariable environment name := by
  rw [requiredVariable, requiredVariable, same]

/-- A connection depends on the variables that are looked up for it and on no other ones. -/
theorem ofEnvironment_congr
    (same : ∀ name, LooksUp environment name →
      other.nonEmpty? name = environment.nonEmpty? name) :
    ofEnvironment other = ofEnvironment environment := by
  unfold ofEnvironment
  rw [requiredVariable_congr (same _ (.inl rfl))]
  cases reached : requiredVariable environment endpointVariable with
  | error failure => rfl
  | ok endpoint =>
      have first : environment.Sets endpointVariable :=
        ⟨endpoint, requiredVariable_eq_ok_iff.mp reached⟩
      rw [requiredVariable_congr (same _ (.inr ⟨first, .inl rfl⟩))]
      cases named : requiredVariable environment databaseVariable with
      | error failure => rfl
      | ok database =>
          have second : environment.Sets databaseVariable :=
            ⟨database, requiredVariable_eq_ok_iff.mp named⟩
          have entered : authenticationOf other = authenticationOf environment := by
            rw [authenticationOf, authenticationOf,
              same _ (.inr ⟨first, .inr ⟨second, .inl rfl⟩⟩),
              same _ (.inr ⟨first, .inr ⟨second, .inr rfl⟩⟩)]
          rw [entered]

/-- The failure names a variable that is not set, or both credentials. -/
theorem not_sets_of_missing {name : String}
    (failed : ofEnvironment environment = .error (.missingVariable name)) :
    ¬environment.Sets name ∨ name = keyVariable ++ " or " ++ clientVariable := by
  rcases ofEnvironment_eq_error_iff.mp failed with first | ⟨_, second | ⟨_, third⟩⟩
  · obtain ⟨unset, same⟩ := requiredVariable_eq_error_iff.mp first
    cases same
    exact .inl unset
  · obtain ⟨unset, same⟩ := requiredVariable_eq_error_iff.mp second
    cases same
    exact .inl unset
  · obtain ⟨_, _, same⟩ | ⟨_, _, same⟩ := authenticationOf_eq_error_iff.mp third
    · cases same
    · cases same
      exact .inr rfl

/-- Once the endpoint and the database are provided, only the credentials decide. -/
theorem ofEnvironment_eq_map {endpoint database : String}
    (reached : environment.Provides endpointVariable endpoint)
    (named : environment.Provides databaseVariable database) :
    ofEnvironment environment =
      (authenticationOf environment).map fun entered => ⟨endpoint, database, entered⟩ := by
  unfold ofEnvironment
  rw [requiredVariable_eq_ok_iff.mpr reached, requiredVariable_eq_ok_iff.mpr named]
  rfl

/-- The second credential is either the missing one or one too many. -/
theorem authenticationOf_differs {name : String}
    (credential : name = keyVariable ∨ name = clientVariable)
    (unset : environment.nonEmpty? name = none) {value : String}
    (set : other.nonEmpty? name = some value)
    (same : ∀ another, another ≠ name →
      other.nonEmpty? another = environment.nonEmpty? another) :
    authenticationOf other ≠ authenticationOf environment := by
  unfold authenticationOf
  obtain rfl | rfl := credential
  · rw [unset, set, same clientVariable (by decide)]
    cases environment.nonEmpty? clientVariable <;> simp
  · rw [unset, set, same keyVariable (by decide)]
    cases environment.nonEmpty? keyVariable <;> simp

/-- A variable that is looked up makes a difference when only the other environment sets it. -/
theorem ofEnvironment_differs {name value : String} (looked : LooksUp environment name)
    (unset : environment.nonEmpty? name = none) (set : other.nonEmpty? name = some value)
    (same : ∀ another, another ≠ name →
      other.nonEmpty? another = environment.nonEmpty? another) :
    ofEnvironment other ≠ ofEnvironment environment := by
  have absent : ¬environment.Sets name := by
    rw [Environment.sets_iff, unset]
    exact Bool.false_ne_true
  have present : other.Sets name := ⟨value, Environment.nonEmpty?_eq_some_iff.mp set⟩
  -- A missing endpoint or database is reported by its name.
  have reported (failed : ofEnvironment environment = .error (.missingVariable name))
      (single : name ≠ keyVariable ++ " or " ++ clientVariable) :
      ofEnvironment other ≠ ofEnvironment environment := by
    intro equal
    rw [failed] at equal
    exact (not_sets_of_missing equal).elim (fun missing => missing present) single
  obtain rfl | ⟨⟨endpoint, reached⟩, rfl | ⟨⟨database, named⟩, credential⟩⟩ := looked
  · refine reported ?_ (by decide)
    exact ofEnvironment_eq_error_iff.mpr
      (.inl (requiredVariable_eq_error_iff.mpr ⟨absent, rfl⟩))
  · refine reported ?_ (by decide)
    exact ofEnvironment_eq_error_iff.mpr
      (.inr ⟨⟨endpoint, reached⟩, .inl (requiredVariable_eq_error_iff.mpr ⟨absent, rfl⟩)⟩)
  · have apart : endpointVariable ≠ name ∧ databaseVariable ≠ name := by
      obtain rfl | rfl := credential <;> decide
    have reached' : other.Provides endpointVariable endpoint := by
      rw [← Environment.nonEmpty?_eq_some_iff] at reached ⊢
      rw [same _ apart.1, reached]
    have named' : other.Provides databaseVariable database := by
      rw [← Environment.nonEmpty?_eq_some_iff] at named ⊢
      rw [same _ apart.2, named]
    rw [ofEnvironment_eq_map reached named, ofEnvironment_eq_map reached' named']
    intro equal
    apply authenticationOf_differs credential unset set same
    cases first : authenticationOf environment <;> cases second : authenticationOf other <;>
      simp_all [Except.map]

/-- The credentials of a connection depend on the variable that they name. -/
theorem credentials_congr {connection : Connection}
    (same : other.nonEmpty? connection.authentication.variableName =
      environment.nonEmpty? connection.authentication.variableName) :
    connection.credentials other = connection.credentials environment := by
  rw [credentials, credentials, requiredVariable_congr same]

/-- A credential that only the other environment sets makes a difference. -/
theorem credentials_differ {connection : Connection} {value : String}
    (unset : environment.nonEmpty? connection.authentication.variableName = none)
    (set : other.nonEmpty? connection.authentication.variableName = some value) :
    connection.credentials other ≠ connection.credentials environment := by
  rw [credentials_provided (Environment.nonEmpty?_eq_some_iff.mp set), credentials,
    requiredVariable, unset]
  intro same
  cases same

/-- The connection changes exactly when a variable that it looks up was hidden. -/
theorem ofEnvironment_without_iff {depth : Nat} {name : String}
    (emptied : environment.Empties depth name) :
    ofEnvironment (environment.without depth name) = ofEnvironment environment ↔
      ¬(LooksUp environment name ∧ ∃ value, environment.Hides depth name value) := by
  constructor
  · rintro unchanged ⟨looked, value, hides⟩
    obtain ⟨before, after⟩ := hides.uncovered
    apply ofEnvironment_differs looked before after _ unchanged
    exact fun _ different => Environment.nonEmpty?_without_other emptied different
  · intro apart
    apply ofEnvironment_congr
    intro other looked
    apply (Environment.nonEmpty?_without_iff emptied other).mpr
    rintro ⟨rfl, hides⟩
    exact apart ⟨looked, hides⟩

/-- The credentials change exactly when their own variable was hidden. -/
theorem credentials_without_iff {depth : Nat} {name : String}
    (emptied : environment.Empties depth name) (connection : Connection) :
    connection.credentials (environment.without depth name) = connection.credentials environment ↔
      ¬(connection.authentication.variableName = name ∧
        ∃ value, environment.Hides depth name value) := by
  constructor
  · rintro unchanged ⟨rfl, value, hides⟩
    obtain ⟨before, after⟩ := hides.uncovered
    exact credentials_differ before after unchanged
  · intro apart
    exact credentials_congr ((Environment.nonEmpty?_without_iff emptied _).mpr apart)

/-- An empty value may be taken out of its layer without any effect on lookups, connections and
credentials, except where it hides a value of the layers behind and the variable is looked up. -/
theorem empty_value_counts_unless_hiding (environment : Environment) (depth : Nat) (name : String)
    (emptied : environment.Empties depth name) :
    (∀ value, environment.Hides depth name value →
      environment.nonEmpty? name = none ∧
        (environment.without depth name).nonEmpty? name = some value) ∧
      (∀ other, (environment.without depth name).nonEmpty? other = environment.nonEmpty? other ↔
        ¬(other = name ∧ ∃ value, environment.Hides depth name value)) ∧
      (ofEnvironment (environment.without depth name) = ofEnvironment environment ↔
        ¬(LooksUp environment name ∧ ∃ value, environment.Hides depth name value)) ∧
      ∀ connection : Connection,
        connection.credentials (environment.without depth name) =
            connection.credentials environment ↔
          ¬(connection.authentication.variableName = name ∧
            ∃ value, environment.Hides depth name value) :=
  ⟨fun _ hides => hides.uncovered, Environment.nonEmpty?_without_iff emptied,
    ofEnvironment_without_iff emptied, credentials_without_iff emptied⟩

/-- The key is empty in the nearest layer and set behind it, beside the client. -/
theorem empty_value_hides_sample_key :
    Sample.layered.Empties 0 keyVariable ∧
      Sample.layered.nonEmpty? keyVariable = none ∧
        (Sample.layered.without 0 keyVariable).nonEmpty? keyVariable = some "secret" ∧
          ofEnvironment (Sample.layered.without 0 keyVariable) ≠ ofEnvironment Sample.layered := by
  have emptied : Sample.layered.Empties 0 keyVariable := ⟨_, rfl, rfl⟩
  have provided : (Sample.layered.behind 0).Provides keyVariable "secret" :=
    Environment.nonEmpty?_eq_some_iff.mp rfl
  have hides : Sample.layered.Hides 0 keyVariable "secret" := ⟨emptied, nofun, provided⟩
  have set (name value : String) (found : Sample.layered.nonEmpty? name = some value) :
      Sample.layered.Sets name :=
    ⟨value, Environment.nonEmpty?_eq_some_iff.mp found⟩
  have looked : LooksUp Sample.layered keyVariable :=
    .inr ⟨set _ "https://orders" rfl, .inr ⟨set _ "sales" rfl, .inl rfl⟩⟩
  obtain ⟨uncovered, _, connects, _⟩ :=
    empty_value_counts_unless_hiding Sample.layered 0 keyVariable emptied
  obtain ⟨before, after⟩ := uncovered "secret" hides
  exact ⟨emptied, before, after, fun same => connects.mp same ⟨looked, _, hides⟩⟩

/-- An unset key gives way to the layers behind it, and an empty one does not. -/
theorem empty_value_is_not_unset :
    Sample.layered.Empties 0 keyVariable ∧
      Sample.layered.nonEmpty? keyVariable = none ∧
      (Sample.layered.without 0 keyVariable).nonEmpty? keyVariable = some "secret" ∧
      ofEnvironment (Sample.layered.without 0 keyVariable) = .error .conflictingCredentials ∧
      ¬∀ (environment : Environment) (depth : Nat) (name : String),
        environment.Empties depth name →
          ∀ other, (environment.without depth name).nonEmpty? other =
            environment.nonEmpty? other := by
  have emptied : Sample.layered.Empties 0 keyVariable := ⟨_, rfl, rfl⟩
  have uncovered : (Sample.layered.without 0 keyVariable).nonEmpty? keyVariable =
      some "secret" := rfl
  refine ⟨emptied, rfl, uncovered, rfl, ?_⟩
  intro claimed
  have kept := claimed Sample.layered 0 keyVariable emptied keyVariable
  rw [uncovered] at kept
  cases kept

end Connection

end DocumentQuery
