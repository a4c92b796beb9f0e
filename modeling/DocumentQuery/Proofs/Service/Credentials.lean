/-
This file proves that a connection taken from an environment finds its credentials in it, and which
failure is reported when there is no such connection.
-/

import DocumentQuery.Proofs.Attempt
import DocumentQuery.Service.Configuration

namespace DocumentQuery

namespace Environment

/-- The nearest layer that lists the variable gives it this value, which is not empty. -/
def Provides (environment : Environment) (name value : String) : Prop :=
  ∃ before layer after, environment.layers = before ++ layer :: after ∧
    (∀ nearer ∈ before, Table.entry? nearer name = none) ∧
      Table.entry? layer name = some value ∧ value ≠ ""

/-- A variable is set when it has a value that is not empty. -/
def Sets (environment : Environment) (name : String) : Prop :=
  ∃ value, environment.Provides name value

/-- A value is found when a layer provides it. -/
theorem nonEmpty?_eq_some_iff {environment : Environment} {name value : String} :
    environment.nonEmpty? name = some value ↔ environment.Provides name value := by
  rw [nonEmpty?, Option.filter_eq_some_iff, value?, List.findSome?_eq_some_iff]
  constructor
  · rintro ⟨⟨before, layer, after, layers, found, nearer⟩, filled⟩
    exact ⟨before, layer, after, layers, nearer, found, of_decide_eq_true filled⟩
  · rintro ⟨before, layer, after, layers, nearer, found, filled⟩
    exact ⟨⟨before, layer, after, layers, found, nearer⟩, decide_eq_true filled⟩

/-- A variable is set when a value is found for it. -/
theorem sets_iff {environment : Environment} {name : String} :
    environment.Sets name ↔ (environment.nonEmpty? name).isSome := by
  rw [Option.isSome_iff_exists, Sets]
  exact exists_congr fun value => nonEmpty?_eq_some_iff.symm

end Environment

namespace Connection

variable {environment : Environment}

/-- A required variable has the value that is provided. -/
theorem requiredVariable_eq_ok_iff {name value : String} :
    requiredVariable environment name = .ok value ↔ environment.Provides name value := by
  rw [← Environment.nonEmpty?_eq_some_iff, requiredVariable]
  cases environment.nonEmpty? name <;> simp

/-- A required variable is missing exactly when it is not set. -/
theorem requiredVariable_eq_error_iff {name : String} {failure : ConfigurationFailure} :
    requiredVariable environment name = .error failure ↔
      ¬environment.Sets name ∧ failure = .missingVariable name := by
  rw [Environment.sets_iff, requiredVariable]
  cases environment.nonEmpty? name <;> simp [eq_comm]

/-- A connection has credentials when exactly one of the two variables is set. -/
theorem authenticationOf_eq_ok_iff {authentication : Authentication} :
    authenticationOf environment = .ok authentication ↔
      environment.Sets keyVariable ∧ ¬environment.Sets clientVariable ∧
          authentication = ⟨.key, keyVariable⟩ ∨
        ¬environment.Sets keyVariable ∧ environment.Sets clientVariable ∧
          authentication = ⟨.managedIdentity, clientVariable⟩ := by
  rw [Environment.sets_iff, Environment.sets_iff, authenticationOf]
  cases environment.nonEmpty? keyVariable <;> cases environment.nonEmpty? clientVariable <;>
    simp [eq_comm]

/-- Two credentials are in conflict, and none at all are missing. -/
theorem authenticationOf_eq_error_iff {failure : ConfigurationFailure} :
    authenticationOf environment = .error failure ↔
      environment.Sets keyVariable ∧ environment.Sets clientVariable ∧
          failure = .conflictingCredentials ∨
        ¬environment.Sets keyVariable ∧ ¬environment.Sets clientVariable ∧
          failure = .missingVariable (keyVariable ++ " or " ++ clientVariable) := by
  rw [Environment.sets_iff, Environment.sets_iff, authenticationOf]
  cases environment.nonEmpty? keyVariable <;> cases environment.nonEmpty? clientVariable <;>
    simp [eq_comm]

/-- A connection has its endpoint, its database and its credentials from the environment. -/
theorem ofEnvironment_eq_ok_iff {connection : Connection} :
    ofEnvironment environment = .ok connection ↔
      environment.Provides endpointVariable connection.endpoint ∧
        environment.Provides databaseVariable connection.database ∧
          authenticationOf environment = .ok connection.authentication := by
  simp only [ofEnvironment, Attempt.bind_eq_ok_iff, Attempt.pure_eq_ok_iff,
    requiredVariable_eq_ok_iff]
  constructor
  · rintro ⟨endpoint, reached, database, named, authentication, entered, rfl⟩
    exact ⟨reached, named, entered⟩
  · rintro ⟨reached, named, entered⟩
    exact ⟨_, reached, _, named, _, entered, rfl⟩

/-- The variables are looked up in this order, and the first failure is reported. -/
theorem ofEnvironment_eq_error_iff {failure : ConfigurationFailure} :
    ofEnvironment environment = .error failure ↔
      requiredVariable environment endpointVariable = .error failure ∨
        environment.Sets endpointVariable ∧
          (requiredVariable environment databaseVariable = .error failure ∨
            environment.Sets databaseVariable ∧ authenticationOf environment = .error failure) := by
  simp only [ofEnvironment, Attempt.bind_eq_error_iff, Attempt.pure_eq_error_iff,
    requiredVariable_eq_ok_iff, and_false, exists_false, or_false, exists_and_right,
    Environment.Sets]

/-- The kind of a connection is the kind of its credentials. -/
theorem credentials_provided {connection : Connection} {secret : String}
    (provided : environment.Provides connection.authentication.variableName secret) :
    connection.credentials environment =
      .ok (match connection.authentication.kind with
        | .key => .key secret
        | .managedIdentity => .managedIdentity secret) := by
  rw [credentials, requiredVariable_eq_ok_iff.mpr provided]
  cases connection.authentication.kind <;> rfl

/-- A connection is found when its endpoint, its database and exactly one credential are set, and it
opens with that credential. The failures come in the order of the lookups. -/
theorem environment_opens_connection (environment : Environment) :
    ((∃ connection, ofEnvironment environment = .ok connection) ↔
        environment.Sets endpointVariable ∧ environment.Sets databaseVariable ∧
          (environment.Sets keyVariable ∧ ¬environment.Sets clientVariable ∨
            ¬environment.Sets keyVariable ∧ environment.Sets clientVariable)) ∧
      (∀ connection, ofEnvironment environment = .ok connection →
        environment.Provides endpointVariable connection.endpoint ∧
        environment.Provides databaseVariable connection.database ∧
          ((∃ secret, environment.Provides keyVariable secret ∧
              ¬environment.Sets clientVariable ∧
                connection.credentials environment = .ok (.key secret)) ∨
            ∃ client, environment.Provides clientVariable client ∧
              ¬environment.Sets keyVariable ∧
                connection.credentials environment = .ok (.managedIdentity client))) ∧
      ∀ failure, ofEnvironment environment = .error failure ↔
        ¬environment.Sets endpointVariable ∧ failure = .missingVariable endpointVariable ∨
          environment.Sets endpointVariable ∧
            (¬environment.Sets databaseVariable ∧ failure = .missingVariable databaseVariable ∨
              environment.Sets databaseVariable ∧
                (environment.Sets keyVariable ∧ environment.Sets clientVariable ∧
                    failure = .conflictingCredentials ∨
                  ¬environment.Sets keyVariable ∧ ¬environment.Sets clientVariable ∧
                    failure = .missingVariable (keyVariable ++ " or " ++ clientVariable))) := by
  refine ⟨⟨?_, ?_⟩, ?_, ?_⟩
  · rintro ⟨connection, found⟩
    obtain ⟨reached, named, entered⟩ := ofEnvironment_eq_ok_iff.mp found
    refine ⟨⟨_, reached⟩, ⟨_, named⟩, ?_⟩
    obtain ⟨key, client, _⟩ | ⟨key, client, _⟩ := authenticationOf_eq_ok_iff.mp entered
    · exact .inl ⟨key, client⟩
    · exact .inr ⟨key, client⟩
  · rintro ⟨⟨endpoint, reached⟩, ⟨database, named⟩, one⟩
    have ⟨authentication, entered⟩ :
        ∃ authentication, authenticationOf environment = .ok authentication := by
      obtain ⟨key, client⟩ | ⟨key, client⟩ := one
      · exact ⟨_, authenticationOf_eq_ok_iff.mpr (.inl ⟨key, client, rfl⟩)⟩
      · exact ⟨_, authenticationOf_eq_ok_iff.mpr (.inr ⟨key, client, rfl⟩)⟩
    exact ⟨⟨endpoint, database, authentication⟩,
      ofEnvironment_eq_ok_iff.mpr ⟨reached, named, entered⟩⟩
  · intro connection found
    obtain ⟨endpoint, database, authentication⟩ := connection
    obtain ⟨reached, named, entered⟩ := ofEnvironment_eq_ok_iff.mp found
    refine ⟨reached, named, ?_⟩
    obtain ⟨⟨secret, key⟩, client, rfl⟩ | ⟨key, ⟨identity, client⟩, rfl⟩ :=
      authenticationOf_eq_ok_iff.mp entered
    · exact .inl ⟨secret, key, client, credentials_provided key⟩
    · exact .inr ⟨identity, client, key, credentials_provided client⟩
  · intro failure
    simp only [ofEnvironment_eq_error_iff, requiredVariable_eq_error_iff,
      authenticationOf_eq_error_iff]

end Connection

/-- The empty key hides the key of the layer below, where the client is set. -/
def Sample.layered : Environment where
  values := [("AZURE_COSMOS_DB_NAME", "sales"), ("AZURE_COSMOS_KEY", "")]
  fallbacks := [[("AZURE_COSMOS_KEY", "secret"), ("AZURE_COSMOS_ENDPOINT", "https://orders"),
    ("AZURE_COSMOS_MANAGED_CLIENT_ID", "client")]]

/-- The layered sample opens with the client, since its key is hidden. -/
theorem Connection.environment_opens_layered_connection :
    ∃ connection, ofEnvironment Sample.layered = .ok connection ∧
      connection.credentials Sample.layered = .ok (.managedIdentity "client") := by
  have found : ofEnvironment Sample.layered =
      .ok ⟨"https://orders", "sales", ⟨.managedIdentity, clientVariable⟩⟩ := rfl
  have hidden : Sample.layered.nonEmpty? keyVariable = none := rfl
  have shown : Sample.layered.nonEmpty? clientVariable = some "client" := rfl
  obtain ⟨_, _, ⟨secret, key, _⟩ | ⟨client, identity, _, opened⟩⟩ :=
    (environment_opens_connection Sample.layered).2.1 _ found
  · rw [← Environment.nonEmpty?_eq_some_iff, hidden] at key
    cases key
  · rw [← Environment.nonEmpty?_eq_some_iff, shown] at identity
    cases identity
    exact ⟨_, found, opened⟩

end DocumentQuery
