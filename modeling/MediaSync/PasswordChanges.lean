import MediaSync.Common.FirstFaults
import MediaSync.RuntimeSecretsFile

/-!
# Changing the password

The new secrets are there as soon as the temporary file has been renamed, but
two more operations follow, and when one of them raises the service keeps the
old password and revision in its memory. A call is all or nothing unless its
first fault comes then. The keys never change, and the revision in the file
grows with every change whatever raises.
-/
namespace MediaSync.PasswordChanges
open FaultPrograms GuardedPrograms FirstFaults JsonValues RuntimeSecretsFile

/-! ## The file and its secrets -/

/-- The lengths that a reader of the file insists on. -/
structure Valid (values : RuntimeSecrets) : Prop where
  secretKey : minimumKeyLength ≤ values.secretKey.length
  credentialEncryptionKey : minimumKeyLength ≤ values.credentialEncryptionKey.length
  adminPassword : minimumAdminPasswordLength ≤ values.adminPassword.length

def persisted (host : Host) (files : Files) : Option RuntimeSecrets :=
  match files.secrets with
  | some (.file (some payload)) => (decode host payload).toOption
  | _ => none

section Payloads
variable {host : Host} {values : RuntimeSecrets}

theorem validateKey_ok (name : String) {value : String} :
    validateKey name value = .ok () ↔ minimumKeyLength ≤ value.length := by
  unfold validateKey
  split_ifs with h
  · simpa using h
  · simpa using h

theorem validateAdminPassword_ok {value : String} :
    validateAdminPassword value = .ok () ↔ minimumAdminPasswordLength ≤ value.length := by
  unfold validateAdminPassword
  split_ifs with h
  · simpa using h
  · simpa using h

theorem requiredString_of_long {payload : List (String × Json)} {name : String} (value : String)
    (hfield : Json.field? payload name = some (.str value)) (hlong : value.length ≠ 0) :
    requiredString payload name = .ok value := by
  have hne : value ≠ "" := by
    rintro rfl
    exact hlong rfl
  rw [requiredString, hfield]
  exact if_neg hne

/-- What is written can be read. -/
theorem decode_encode (h : Valid values) : decode host (encode values) = .ok values := by
  have hsecret := (validateKey_ok "SECRET_KEY").mpr h.secretKey
  have hcredential := (validateKey_ok "CREDENTIAL_ENCRYPTION_KEY").mpr
    h.credentialEncryptionKey
  have hpassword := validateAdminPassword_ok.mpr h.adminPassword
  obtain ⟨hlong₁, hlong₂, hlong₃⟩ := h
  unfold minimumKeyLength at hlong₁ hlong₂
  unfold minimumAdminPasswordLength at hlong₃
  have hrevision (payload : List (String × Json)) (hfield : Json.field? payload
      "admin_session_revision" = some (.int values.adminSessionRevision)) :
      optionalNonnegativeInteger payload "admin_session_revision" 0 =
        .ok values.adminSessionRevision := by
    rw [optionalNonnegativeInteger, hfield]
    exact if_neg (by omega)
  change decodeFields _ = _
  unfold decodeFields
  rw [requiredString_of_long values.secretKey rfl (by omega),
    requiredString_of_long values.credentialEncryptionKey rfl (by omega),
    requiredString_of_long values.adminPassword rfl (by omega), hrevision _ rfl]
  simp only [bind, Except.bind, hsecret, hcredential, hpassword]
  rfl

/-- What can be read is fit to be written again. -/
theorem decode_valid {payload : Json} (h : decode host payload = .ok values) : Valid values := by
  unfold decode at h
  split at h
  · split_ifs at h
    unfold decodeFields at h
    obtain ⟨secretKey, -, h⟩ := bind_ok h
    obtain ⟨credentialEncryptionKey, -, h⟩ := bind_ok h
    obtain ⟨adminPassword, -, h⟩ := bind_ok h
    obtain ⟨adminSessionRevision, -, h⟩ := bind_ok h
    obtain ⟨_, hsecret, h⟩ := bind_ok h
    obtain ⟨_, hcredential, h⟩ := bind_ok h
    obtain ⟨_, hpassword, h⟩ := bind_ok h
    cases h
    exact ⟨(validateKey_ok _).mp hsecret, (validateKey_ok _).mp hcredential,
      validateAdminPassword_ok.mp hpassword⟩
  · cases h

end Payloads

/-! ## Straight operations -/

/-- What the first fault leaves at the path of the secrets. -/
def Leaves (node : ℕ → Fault → Option Node) (i : ℕ) (f : Fault) (files : Files) : Prop :=
  files.secrets = node i f

/-- A program that never touches the secrets. -/
abbrev Keeps {α : Type} (p : Access α) : Prop :=
  Within (fun files files' => files'.secrets = files.secrets) p

theorem operation_keeps : Keeps operation := Within.effect fun _ => rfl

theorem unlinkTemporary_keeps : Keeps unlinkTemporary := Within.effect fun _ => rfl

section Straightness
variable {host : Host} {node : ℕ → Fault → Option Node} {files files' files'' : Files} {α : Type}
  {a : α} {n m : ℕ}

/-- A program that does not return leaves what is left. -/
theorem stopped_of_keeps {p : Access α} (hkeeps : Keeps p) (hanswers : Answers (fun _ => False) p)
    {i : ℕ} {f : Fault} (hf : f ≠ .crash) (h : Leaves node i f files) (es : Schedule Empty) :
    Stopped f (Leaves node i f) (p.run es files) := by
  refine Answers.stopped hanswers ?_ (fun i => i.elim) hf h es
  exact hkeeps.mono fun _ _ hsame hleft => hsame.trans hleft

theorem operation_straight (h : ∀ f, node 0 f = files.secrets) :
    Straight 1 operation files () files (Leaves node) :=
  Straight.change (h _).symm (h _).symm (h _).symm

theorem orRaise_straight {p : Access α} {text : String}
    (h : Straight n p files a files' (Leaves node)) :
    Straight n (orRaise p text) files a files' (Leaves node) := by
  refine h.handle fun e i f files es _ hf hleft => ?_
  cases e <;> exact ⟨hf, hleft⟩

theorem withFinally_straight {body closing : Access Unit}
    (hbody : Straight n body files () files' (Leaves node))
    (hclosing : Straight m closing files' () files'' (Leaves fun i => node (i + n)))
    (hkeeps : Keeps closing) :
    Straight (n + m) (withFinally body closing) files () files'' (Leaves node) := by
  refine Straight.bind (hbody.handle fun e i f files es _ hf hleft => ?_) hclosing
  exact stopped_of_keeps (hkeeps.bind fun _ => Within.throw e)
    (Answers.bind (P := fun _ => True) Answers.any fun _ _ => trivial) hf hleft es

theorem orUnlink_straight {p : Access Unit} (h : Straight n p files () files' (Leaves node)) :
    Straight n (orUnlink p) files () files' (Leaves node) := by
  refine h.handle fun e i f files es _ hf hleft => ?_
  exact stopped_of_keeps ((Within.attempt unlinkTemporary_keeps).bind fun _ => Within.throw e)
    (Answers.bind (P := fun _ => True) Answers.any fun _ _ => trivial) hf hleft es

/-- Nothing is done to the secrets while the temporary file is written. -/
theorem writeTemporary_straight {payload : Json} (h : ∀ i f, i < 6 → node i f = files.secrets) :
    Straight 6 (writeTemporary payload) files () { files with temporary := some (some payload) }
      (Leaves node) := by
  refine Straight.bind (n := 1) (m := 5) (operation_straight fun f => h 0 f (by omega)) ?_
  refine withFinally_straight (n := 4) (m := 1) ?_ (operation_straight fun f => h 5 f (by omega))
    operation_keeps
  refine Straight.bind (n := 1) (m := 3) (operation_straight fun f => h 1 f (by omega)) ?_
  refine Straight.bind (n := 1) (m := 2) (Straight.change (h 2 _ (by omega)).symm
    (h 2 _ (by omega)).symm (h 2 _ (by omega)).symm) ?_
  refine Straight.bind (n := 1) (m := 1) (operation_straight fun f => h 3 f (by omega)) ?_
  exact operation_straight fun f => h 4 f (by omega)

theorem fsyncDirectory_straight (h : ∀ i f, i < 3 → node i f = files.secrets) :
    Straight 3 fsyncDirectory files () files (Leaves node) := by
  refine Straight.bind (n := 1) (m := 2) (operation_straight fun f => h 0 f (by omega)) ?_
  exact withFinally_straight (n := 1) (m := 1) (operation_straight fun f => h 1 f (by omega))
    (operation_straight fun f => h 2 f (by omega)) operation_keeps

/-- The secrets after a first fault, when operation `r` renames. -/
def renamed (r : ℕ) (old new : Option Node) (i : ℕ) (f : Fault) : Option Node :=
  if r < i ∨ i = r ∧ f = .late then new else old

theorem renamed_add (r k : ℕ) (old new : Option Node) (i : ℕ) (f : Fault) :
    renamed (r + k) old new (i + k) f = renamed r old new i f := by
  simp only [renamed, Nat.add_lt_add_iff_right, Nat.add_right_cancel_iff]

def written (files : Files) (values : RuntimeSecrets) : Files :=
  { files with secrets := some (.file (some (encode values))), temporary := none }

/-- The rename is the seventh operation once there is a temporary file. -/
theorem renameTemporary_straight (values : RuntimeSecrets)
    (h : ∀ i f, node i f = renamed 6 files.secrets (written files values).secrets i f) :
    Straight 7 (orUnlink (do
      writeTemporary (encode values)
      replaceSecrets)) files () (written files values) (Leaves node) := by
  have hrename (f : Fault) (hf : f ≠ .late) : node 6 f = files.secrets := by
    rw [h]
    exact if_neg (by simp [hf])
  have hlate : node 6 .late = (written files values).secrets := by
    rw [h]
    exact if_pos (.inr ⟨rfl, rfl⟩)
  refine orUnlink_straight (Straight.bind (n := 6) (m := 1) (writeTemporary_straight ?_) ?_)
  · intro i f hi
    rw [h]
    exact if_neg (by omega)
  · exact Straight.effect rfl (hrename _ (by decide)).symm hlate.symm (hrename _ (by decide)).symm

/-- The rename is the eighth operation of twelve. -/
theorem writeRuntimeSecrets_straight (values : RuntimeSecrets)
    (h : ∀ i f, node i f = renamed 7 files.secrets (written files values).secrets i f) :
    Straight 12 (writeRuntimeSecrets host values) files () (written files values)
      (Leaves node) := by
  have hfirst (f : Fault) : node 0 f = files.secrets := by
    rw [h]
    exact if_neg (by omega)
  have hnew (i : ℕ) (f : Fault) (hi : 7 < i) : node i f = (written files values).secrets := by
    rw [h]
    exact if_pos (.inl hi)
  refine orRaise_straight ?_
  refine Straight.bind (n := 1) (m := 11) (Straight.change (hfirst _).symm (hfirst _).symm
    (hfirst _).symm) ?_
  refine Straight.bind (n := 7) (m := 4) (renameTemporary_straight values fun i f => ?_) ?_
  · rw [h]
    exact renamed_add 6 1 _ _ i f
  · refine Straight.bind (n := 1) (m := 3) (operation_straight fun f => hnew 8 f (by omega)) ?_
    exact fsyncDirectory_straight fun i f _ => hnew (i + 1 + 7 + 1) f (by omega)

/-! ### Reading -/

theorem refuseLink_straight (hlink : files.secrets ≠ some .link)
    (h : ∀ f, node 0 f = files.secrets) :
    Straight 1 (refuseLink host) files () files (Leaves node) := by
  refine Straight.bind (n := 1) (m := 0) (Straight.look rfl fun f => (h f).symm) ?_
  rw [if_neg hlink]
  exact Straight.pure () files

theorem readRuntimeSecrets_straight {payload : Json} {values : RuntimeSecrets}
    (hfile : files.secrets = some (.file (some payload)))
    (hdecode : decode host payload = .ok values) (h : ∀ i f, i < 3 → node i f = files.secrets) :
    Straight 3 (readRuntimeSecrets host) files values files (Leaves node) := by
  refine Straight.bind (n := 1) (m := 2) (Straight.look rfl fun f => (h 0 f (by omega)).symm) ?_
  have hregular : isFile files.secrets = true := by rw [hfile]; rfl
  rw [hregular]
  have htext : Straight 1 (readText host) files payload files (Leaves fun i => node (i + 1)) :=
    orRaise_straight (Straight.look (by rw [hfile]) fun f => (h 1 f (by omega)).symm)
  refine Straight.bind (n := 1) (m := 1) htext ?_
  refine Straight.bind (n := 0) (m := 1) (Straight.ofExcept hdecode files) ?_
  refine Straight.bind (n := 1) (m := 0) (orRaise_straight
    (operation_straight fun f => h 2 f (by omega))) ?_
  exact Straight.pure values files

end Straightness

/-! ## Operations that move nothing -/

/-- Wherever a run ends, the files are as they were. -/
def Unmoved {α : Type} (files : Files) (V : α → Prop) : Post Files SecretsError α where
  value a files' := files' = files ∧ V a
  raised _ files' := files' = files
  refused _ files' := files' = files
  crashed files' := files' = files

section Unmoving
variable {host : Host} {files : Files} {α : Type} {V : α → Prop}

theorem look_unmoved {view : Files → Except SecretsError α} :
    Meets Empty (Prog.look .os view) (Unmoved files fun a => view files = .ok a) files := by
  refine Meets.look (fun _ h => moved_alone.mp h) (fun _ h => moved_alone.mp h) (fun _ _ => trivial)
    fun files' h => ?_
  rw [moved_alone.mp h]
  cases hview : view files with
  | ok a => exact ⟨rfl, rfl⟩
  | error e => exact ⟨rfl, rfl⟩

theorem operation_unmoved : Meets Empty operation (Unmoved files fun _ => True) files :=
  Meets.change (fun _ h => moved_alone.mp h)
    (fun _ h => ⟨moved_alone.mp h, moved_alone.mp h⟩) (fun _ _ => trivial)
    fun _ h => ⟨moved_alone.mp h, trivial⟩

theorem ofExcept_unmoved {r : Except SecretsError α} :
    Meets Empty (Prog.ofExcept r) (Unmoved files fun a => r = .ok a) files := by
  refine Meets.ofExcept ?_
  cases r with
  | ok a => exact ⟨rfl, rfl⟩
  | error e => exact ⟨rfl, rfl⟩

theorem throw_unmoved {e : SecretsError} : Meets Empty (throw e) (Unmoved files V) files :=
  Meets.throw rfl rfl

theorem bind_unmoved {β : Type} {p : Access α} {f : α → Access β} {W : β → Prop}
    (hp : Meets Empty p (Unmoved files V) files)
    (hf : ∀ a, V a → Meets Empty (f a) (Unmoved files W) files) :
    Meets Empty (p >>= f) (Unmoved files W) files := by
  refine Meets.bind hp fun a files' h => ?_
  rw [h.1]
  exact hf a h.2

/-- A handler that raises. -/
theorem handle_unmoved {p : Access α} {h : SecretsError → Access α}
    (hp : Meets Empty p (Unmoved files V) files) (hh : ∀ e, ∃ e', h e = throw e') :
    Meets Empty (tryCatch p h) (Unmoved files V) files := by
  refine Meets.handle (R := fun _ files' => files' = files) (S := fun _ files' => files' = files)
    hp (fun e files' hfiles => ?_) fun e files' hfiles => ?_
  · obtain ⟨e', he⟩ := hh e
    rw [he, hfiles]
    exact Meets.throw rfl trivial
  · obtain ⟨e', he⟩ := hh e
    rw [he, hfiles]
    exact throw_unmoved

theorem orRaise_unmoved {p : Access α} {text : String}
    (hp : Meets Empty p (Unmoved files V) files) :
    Meets Empty (orRaise p text) (Unmoved files V) files := by
  refine handle_unmoved hp fun e => ?_
  cases e <;> exact ⟨_, rfl⟩

theorem readRuntimeSecrets_unmoved : Meets Empty (readRuntimeSecrets host)
    (Unmoved files fun values => persisted host files = some values) files := by
  refine bind_unmoved look_unmoved fun regular _ => ?_
  cases regular with
  | false => exact bind_unmoved (V := fun _ => False) throw_unmoved fun _ hnever => hnever.elim
  | true =>
    refine bind_unmoved (orRaise_unmoved look_unmoved) fun payload hpayload => ?_
    refine bind_unmoved ofExcept_unmoved fun values hvalues => ?_
    refine bind_unmoved (orRaise_unmoved operation_unmoved) fun _ _ => ?_
    have hread : persisted host files = some values := by
      unfold persisted
      split at hpayload
      · rename_i content hfile
        cases hpayload
        rw [hfile]
        dsimp only
        rw [hvalues]
        rfl
      · cases hpayload
      · cases hpayload
    exact Meets.pure ⟨rfl, hread⟩

theorem refuseLink_unmoved :
    Meets Empty (refuseLink host) (Unmoved files fun _ => True) files := by
  refine bind_unmoved look_unmoved fun secrets _ => ?_
  split_ifs
  · exact throw_unmoved
  · exact Meets.pure ⟨rfl, trivial⟩

end Unmoving

/-! ## Calls -/

/-- The call passes all checks that are made before anything is written. -/
structure Accepted (host : Host) (files : Files) (store : AdminCredentialStore)
    (currentPassword newPassword : String) (values : RuntimeSecrets) : Prop where
  checked : checkPasswords store currentPassword newPassword = .ok ()
  persisted : persisted host files = some values
  revision : values.adminSessionRevision = store.revision
  password : compareDigest values.adminPassword store.password = .ok true

/-- The secrets with another password. -/
def renew (values : RuntimeSecrets) (newPassword : String) : RuntimeSecrets :=
  { values with
    adminPassword := newPassword
    adminSessionRevision := values.adminSessionRevision + 1 }

section Calls
variable {host : Host} {files : Files} {store : AdminCredentialStore}
  {currentPassword newPassword : String} {values : RuntimeSecrets}

theorem persisted_some (h : persisted host files = some values) :
    ∃ payload, files.secrets = some (.file (some payload)) ∧ decode host payload = .ok values := by
  unfold persisted at h
  split at h
  · rename_i payload hfile
    cases hdecode : decode host payload with
    | ok decoded =>
      rw [hdecode] at h
      cases h
      exact ⟨payload, hfile, hdecode⟩
    | error e =>
      rw [hdecode] at h
      cases h
  · cases h

theorem persisted_valid (h : persisted host files = some values) : Valid values := by
  obtain ⟨payload, -, hdecode⟩ := persisted_some h
  exact decode_valid hdecode

theorem persisted_written (files : Files) (h : Valid values) :
    persisted host (written files values) = some values := by
  change (decode host (encode values)).toOption = some values
  rw [decode_encode h]
  rfl

theorem Valid.renew (h : Valid values) (hlong : minimumAdminPasswordLength ≤ newPassword.length) :
    Valid (renew values newPassword) :=
  ⟨h.secretKey, h.credentialEncryptionKey, hlong⟩

theorem checkPasswords_ok (h : checkPasswords store currentPassword newPassword = .ok ()) :
    minimumOnlinePasswordLength ≤ newPassword.length ∧
      compareDigest newPassword bootstrapAdminPassword = .ok false ∧
      compareDigest currentPassword store.password = .ok true ∧
      compareDigest newPassword store.password = .ok false ∧
      store.passwordChangeSupported = true := by
  unfold checkPasswords at h
  by_cases hform : newPassword.length < minimumOnlinePasswordLength ∨
      maximumOnlinePasswordLength < newPassword.length ∨ PythonText.strip newPassword.toList = []
  · rw [if_pos hform] at h
    cases h
  · rw [if_neg hform] at h
    rw [not_or, not_lt] at hform
    obtain ⟨bootstrap, hbootstrap, h⟩ := bind_ok h
    cases bootstrap
    · obtain ⟨current, hcurrent, h⟩ := bind_ok h
      cases current
      · cases h
      · obtain ⟨same, hsame, h⟩ := bind_ok h
        cases same
        · cases hsupported : store.passwordChangeSupported with
          | false =>
            rw [hsupported] at h
            cases h
          | true => exact ⟨hform.1, hbootstrap, hcurrent, hsame, rfl⟩
        · cases h
    · cases h

/-- An accepted update performs sixteen operations, the twelfth of which renames. -/
theorem updateRuntimeAdminPassword_straight
    (h : Accepted host files store currentPassword newPassword values) :
    Straight 16 (updateRuntimeAdminPassword host store.password newPassword store.revision) files
      (renew values newPassword) (written files (renew values newPassword))
      (Leaves (renamed 11 files.secrets (written files (renew values newPassword)).secrets)) := by
  obtain ⟨payload, hfile, hdecode⟩ := persisted_some h.persisted
  obtain ⟨hlong, -⟩ := checkPasswords_ok h.checked
  have hold (i : ℕ) (f : Fault) (hi : i < 11) :
      renamed 11 files.secrets (written files (renew values newPassword)).secrets i f =
        files.secrets := if_neg (by omega)
  have hshort : validateAdminPassword newPassword = .ok () := by
    rw [validateAdminPassword_ok]
    exact le_trans (by decide) hlong
  refine Straight.bind (n := 1) (m := 15) (refuseLink_straight (by simp [hfile])
    fun f => hold 0 f (by omega)) ?_
  refine Straight.bind (n := 3) (m := 12) (readRuntimeSecrets_straight hfile hdecode
    fun i f hi => hold (i + 1) f (by omega)) ?_
  rw [if_neg (not_not.mpr h.revision)]
  refine Straight.bind (n := 0) (m := 12) (Straight.ofExcept h.password files) ?_
  refine Straight.bind (n := 0) (m := 12) (Straight.ofExcept hshort files) ?_
  refine Straight.bind (n := 12) (m := 0) (writeRuntimeSecrets_straight (renew values newPassword)
    fun i f => renamed_add 7 4 _ _ i f) ?_
  exact Straight.pure (renew values newPassword) _

theorem changePassword_straight
    (h : Accepted host files store currentPassword newPassword values) :
    Straight 16 (changePassword host store currentPassword newPassword) files
      { store with password := newPassword, revision := values.adminSessionRevision + 1 }
      (written files (renew values newPassword))
      (Leaves (renamed 11 files.secrets (written files (renew values newPassword)).secrets)) := by
  refine Straight.bind (n := 0) (m := 16) (Straight.ofExcept h.checked files) ?_
  refine Straight.bind (n := 16) (m := 0)
    (Straight.handle (updateRuntimeAdminPassword_straight h) ?_) (Straight.pure _ _)
  intro e i f w es _ hf hleft
  cases e <;> exact ⟨hf, hleft⟩

/-- A call that is not accepted moves nothing and does not return. -/
theorem changePassword_unmoved
    (h : ∀ values, ¬Accepted host files store currentPassword newPassword values) :
    Meets Empty (changePassword host store currentPassword newPassword)
      (Unmoved files fun _ => False) files := by
  refine bind_unmoved ofExcept_unmoved fun _ hchecked => ?_
  refine bind_unmoved (V := fun _ => False) (handle_unmoved ?_ fun e => ?_) fun _ hnever =>
    hnever.elim
  · refine bind_unmoved refuseLink_unmoved fun _ _ => ?_
    refine bind_unmoved readRuntimeSecrets_unmoved fun values hvalues => ?_
    by_cases hrevision : values.adminSessionRevision = store.revision
    · rw [if_neg (not_not.mpr hrevision)]
      refine bind_unmoved ofExcept_unmoved fun unchanged hunchanged => ?_
      cases unchanged with
      | false => exact bind_unmoved (V := fun _ => False) throw_unmoved fun _ hnever => hnever.elim
      | true => exact absurd ⟨hchecked, hvalues, hrevision, hunchanged⟩ (h values)
    · rw [if_pos hrevision]
      exact bind_unmoved (V := fun unchanged => unchanged = false) (Meets.pure ⟨rfl, rfl⟩)
        fun unchanged hunchanged => by
          subst hunchanged
          exact bind_unmoved (V := fun _ => False) throw_unmoved fun _ hnever => hnever.elim
  · cases e <;> exact ⟨_, rfl⟩

end Calls

/-! ## How a call ends -/

/-- The first operation that raises comes after the rename, or is the rename
itself and has taken effect. -/
def RaisesAfterRename (faults : Schedule Empty) : Prop :=
  ∃ i f, firstFault faults = some (i, f) ∧ f ≠ .crash ∧ i < 16 ∧ (11 < i ∨ i = 11 ∧ f = .late)

/-- The ways in which a call can end, and the files it can leave. -/
inductive Called (host : Host) (files : Files) (store : AdminCredentialStore)
    (currentPassword newPassword : String) (faults : Schedule Empty) :
    Outcome SecretsError AdminCredentialStore → Files → Prop where
  | returned (values : RuntimeSecrets) (files' : Files)
      (accepted : Accepted host files store currentPassword newPassword values)
      (early : ¬RaisesAfterRename faults)
      (renewed : persisted host files' = some (renew values newPassword)) :
      Called host files store currentPassword newPassword faults
        (.value { store with
          password := newPassword
          revision := values.adminSessionRevision + 1 }) files'
  | raised (e : SecretsError) (files' : Files)
      (early : ¬((∃ values, Accepted host files store currentPassword newPassword values) ∧
        RaisesAfterRename faults))
      (same : files'.secrets = files.secrets) :
      Called host files store currentPassword newPassword faults (.raised e) files'
  | raisedLate (e : SecretsError) (values : RuntimeSecrets) (files' : Files)
      (accepted : Accepted host files store currentPassword newPassword values)
      (late : RaisesAfterRename faults)
      (renewed : persisted host files' = some (renew values newPassword)) :
      Called host files store currentPassword newPassword faults (.raised e) files'
  | crashed (files' : Files)
      (either : files'.secrets = files.secrets ∨
        ∃ values, persisted host files = some values ∧
          persisted host files' = some (renew values newPassword)) :
      Called host files store currentPassword newPassword faults .crashed files'

section Endings
variable {host : Host} {files files' : Files} {store : AdminCredentialStore}
  {currentPassword newPassword : String} {values : RuntimeSecrets} {faults : Schedule Empty}

theorem persisted_congr (h : files'.secrets = files.secrets) :
    persisted host files' = persisted host files := by
  unfold persisted
  rw [h]

theorem persisted_renewed (h : Accepted host files store currentPassword newPassword values) :
    persisted host (written files (renew values newPassword)) =
      some (renew values newPassword) := by
  obtain ⟨hlong, -⟩ := checkPasswords_ok h.checked
  exact persisted_written files ((persisted_valid h.persisted).renew (le_trans (by decide) hlong))

/-- Every fault leaves the old secrets or the new ones. -/
theorem renamed_cases (r : ℕ) (old new : Option Node) (i : ℕ) (f : Fault) :
    (renamed r old new i f = new ∧ (r < i ∨ i = r ∧ f = .late)) ∨
      (renamed r old new i f = old ∧ ¬(r < i ∨ i = r ∧ f = .late)) := by
  unfold renamed
  split_ifs with h
  · exact .inl ⟨rfl, h⟩
  · exact .inr ⟨rfl, h⟩

theorem called_of_run {r : Outcome SecretsError AdminCredentialStore} {rest : Schedule Empty}
    (hrun : (changePassword host store currentPassword newPassword).run faults files =
      (r, files', rest)) :
    Called host files store currentPassword newPassword faults r files' := by
  by_cases haccepted : ∃ values, Accepted host files store currentPassword newPassword values
  · obtain ⟨values, h⟩ := haccepted
    have hstraight := changePassword_straight h
    by_cases hspared : Spared 16 faults
    · rw [hstraight.returns faults hspared] at hrun
      cases hrun
      refine .returned values _ h ?_ (persisted_renewed h)
      rintro ⟨i, f, hfirst, -, hi, -⟩
      have hlater := hspared i f hfirst
      omega
    · unfold Spared at hspared
      push Not at hspared
      obtain ⟨i, f, hfirst, hi⟩ := hspared
      have hstopped := hstraight.stopped faults i f hfirst hi
      rw [hrun] at hstopped
      have hleft := renamed_cases 11 files.secrets
        (written files (renew values newPassword)).secrets
        i f
      cases r with
      | value store' => exact hstopped.elim
      | raised e =>
        obtain ⟨hf, hfiles⟩ := hstopped
        unfold Leaves at hfiles
        rcases hleft with ⟨hnew, hwhen⟩ | ⟨hold, hwhen⟩
        · refine .raisedLate e values files' h ⟨i, f, hfirst, hf, hi, hwhen⟩ ?_
          rw [persisted_congr (hfiles.trans hnew)]
          exact persisted_renewed h
        · refine .raised e files' ?_ (hfiles.trans hold)
          rintro ⟨-, j, g, hsame, -, -, hlate⟩
          rw [hfirst] at hsame
          cases hsame
          exact hwhen hlate
      | crashed =>
        change Leaves _ i f files' at hstopped
        unfold Leaves at hstopped
        refine .crashed files' ?_
        rcases hleft with ⟨hnew, -⟩ | ⟨hold, -⟩
        · refine .inr ⟨values, h.persisted, ?_⟩
          rw [persisted_congr (hstopped.trans hnew)]
          exact persisted_renewed h
        · exact .inl (hstopped.trans hold)
  · have hunmoved := (changePassword_unmoved (by simpa using haccepted) faults).1
    rw [hrun] at hunmoved
    cases r with
    | value store' => exact hunmoved.1.2.elim
    | raised e =>
      have hfiles : files' = files := hunmoved.1
      exact .raised e files' (fun h => haccepted h.1) (by rw [hfiles])
    | crashed =>
      have hfiles : files' = files := hunmoved.1
      exact .crashed files' (.inl (by rw [hfiles]))

end Endings

/-! ## All or nothing -/

/-- If the call raises, file and memory have the secrets from before, and if it
returns they have the new ones. -/
def AllOrNothing (host : Host) (service : Service) (store : AdminCredentialStore)
    (currentPassword newPassword : String) (faults : Schedule Empty) : Prop :=
  let service' := service.step host (.change currentPassword newPassword faults)
  match ((changePassword host store currentPassword newPassword).run faults service.files).1 with
  | .value _ => ∃ values, persisted host service.files = some values ∧
      persisted host service'.files = some (renew values newPassword) ∧
      service'.memory = some { store with
        password := newPassword
        revision := values.adminSessionRevision + 1 }
  | .raised _ => persisted host service'.files = persisted host service.files ∧
      service'.memory = service.memory
  | .crashed => True

section Services
variable {host : Host} {service : Service} {store : AdminCredentialStore}
  {currentPassword newPassword : String} {faults : Schedule Empty}

theorem step_change (hmemory : service.memory = some store)
    {r : Outcome SecretsError AdminCredentialStore} {files : Files} {rest : Schedule Empty}
    (hrun : (changePassword host store currentPassword newPassword).run faults service.files =
      (r, files, rest)) :
    service.step host (.change currentPassword newPassword faults) =
      ⟨files, memoryAfter store r⟩ := by
  unfold Service.step
  rw [hmemory]
  dsimp only
  rw [hrun]

theorem renew_ne (values : RuntimeSecrets) (newPassword : String) :
    renew values newPassword ≠ values := by
  intro h
  have hrevision := congrArg RuntimeSecrets.adminSessionRevision h
  exact absurd hrevision (Nat.succ_ne_self _)

/-- The call is all or nothing unless it has passed its checks and the first
operation that raises comes after the rename. -/
theorem allOrNothing_iff (hmemory : service.memory = some store)
    (hraises : ∀ e ∈ faults, e.fault ≠ .crash) :
    AllOrNothing host service store currentPassword newPassword faults ↔
      ¬((∃ values, Accepted host service.files store currentPassword newPassword values) ∧
        RaisesAfterRename faults) := by
  rcases hrun : (changePassword host store currentPassword newPassword).run faults
    service.files with
    ⟨r, files, rest⟩
  unfold AllOrNothing
  rw [step_change hmemory hrun, hrun]
  dsimp only
  cases called_of_run hrun with
  | returned values files' accepted early renewed =>
    exact ⟨fun _ h => early h.2, fun _ => ⟨values, accepted.persisted, renewed, rfl⟩⟩
  | raised e files' early same =>
    exact ⟨fun _ => early, fun _ => ⟨persisted_congr same, hmemory.symm⟩⟩
  | raisedLate e values files' accepted late renewed =>
    constructor
    · rintro ⟨hsame, -⟩ -
      rw [renewed, accepted.persisted] at hsame
      exact renew_ne values newPassword (Option.some.inj hsame)
    · intro h
      exact absurd ⟨⟨values, accepted⟩, late⟩ h
  | crashed files' either =>
    obtain ⟨e, hmem, hcrash⟩ := crash_of_run hrun
    exact absurd hcrash (hraises e hmem)

end Services

/-! ## Starting again -/

/-- The secrets after some write, or after none. -/
def Onward (host : Host) (files files' : Files) : Prop :=
  files.secrets = none ∨ files'.secrets = files.secrets ∨
    ∃ values newPassword, persisted host files = some values ∧
      persisted host files' = some (renew values newPassword)

/-- A part of the start. -/
def Starts {α : Type} (host : Host) (files : Files) (V : α → Files → Prop) :
    Post Files SecretsError α where
  value := V
  raised _ := Onward host files
  refused _ := Onward host files
  crashed := Onward host files

section Starting
variable {host : Host} {files files' : Files} {environment : Environment} {tokens : Tokens}
  {α : Type}

theorem ensureConfigDirectory_keeps : Keeps (ensureConfigDirectory host) := by
  have hlook {α : Type} {view : Files → Except SecretsError α} : Keeps (Prog.look .os view) :=
    Within.effect fun _ => rfl
  have hraise {α : Type} {p : Access α} {text : String} (hp : Keeps p) :
      Keeps (orRaise p text) := by
    refine Within.handle hp fun e => ?_
    cases e <;> exact Within.throw _
  have hguard {α : Type} {c : Prop} [Decidable c] {e : SecretsError} {p : Access α} (hp : Keeps p) :
      Keeps (do
        if c then throw e
        p) := by
    split_ifs
    · exact Within.bind (Within.throw e) fun _ => hp
    · exact Within.bind (Within.pure ()) fun _ => hp
  refine Within.bind hlook fun data => hguard (hguard ?_)
  refine Within.bind (hraise (Within.effect fun _ => rfl)) fun _ => ?_
  refine Within.bind hlook fun config => hguard (hguard ?_)
  exact hraise (Within.bind (Within.effect fun _ => rfl) fun _ => operation_keeps)

theorem starts_of_unmoved {p : Access α} {V : α → Prop}
    (h : Meets Empty p (Unmoved files' V) files') (hfiles : Onward host files files') :
    Meets Empty p (Starts host files fun a w => w = files' ∧ V a) files' := by
  refine h.mono (fun _ _ h => h) (fun e w h => ?_) (fun e w h => ?_) (fun w h => ?_) fun _ _ h => h
  all_goals
    change w = files' at h
    rw [h]
    exact hfiles

theorem onward_congr {files'' : Files} (h : files''.secrets = files'.secrets)
    (hfiles : Onward host files files') : Onward host files files'' := by
  unfold Onward
  rw [h, persisted_congr h]
  exact hfiles

/-- A write leaves the old secrets or the new ones. -/
theorem write_starts (values : RuntimeSecrets) (hfiles : Onward host files files')
    (hwritten : Onward host files (written files' values)) :
    Meets Empty (writeRuntimeSecrets host values)
      (Starts host files fun _ w => w = written files' values) files' := by
  have hstraight : Straight 12 (writeRuntimeSecrets host values) files' () (written files' values)
      (Leaves (renamed 7 files'.secrets (written files' values).secrets)) :=
    writeRuntimeSecrets_straight values fun _ _ => rfl
  have hleft (w : Files) (h : ∃ i f, Leaves (renamed 7 files'.secrets
      (written files' values).secrets) i f w) : Onward host files w := by
    obtain ⟨i, f, hleaves⟩ := h
    unfold Leaves at hleaves
    rcases renamed_cases 7 files'.secrets (written files' values).secrets i f with
      ⟨hnew, -⟩ | ⟨hold, -⟩
    · exact onward_congr (hleaves.trans hnew) hwritten
    · exact onward_congr (hleaves.trans hold) hfiles
  exact hstraight.meets.mono (fun _ _ h => h.2) (fun _ w h => hleft w h) (fun _ _ h => h.elim)
    (fun w h => hleft w h) fun _ _ h => h

/-- The service starts with the secrets that are in the file. -/
def StartedWith (host : Host) (files : Files) (values : RuntimeSecrets) (files' : Files) : Prop :=
  Onward host files files' ∧ persisted host files' = some values

theorem prepareExisting_starts (hfiles : files'.secrets = files.secrets) :
    Meets Empty (prepareExisting host environment) (Starts host files (StartedWith host files))
      files' := by
  have honward : Onward host files files' := .inr (.inl hfiles)
  refine Meets.bind (starts_of_unmoved readRuntimeSecrets_unmoved honward) fun current w h => ?_
  obtain ⟨rfl, hcurrent⟩ := h
  refine Meets.bind (starts_of_unmoved ofExcept_unmoved honward) fun _ w h => ?_
  obtain ⟨rfl, -⟩ := h
  cases requestedAdminPasswordForExistingData host environment with
  | none => exact Meets.pure ⟨honward, hcurrent⟩
  | some requested =>
    refine Meets.bind (starts_of_unmoved ofExcept_unmoved honward) fun same w h => ?_
    obtain ⟨rfl, -⟩ := h
    cases same with
    | true => exact Meets.pure ⟨honward, hcurrent⟩
    | false =>
      refine Meets.bind (starts_of_unmoved ofExcept_unmoved honward) fun _ w h => ?_
      obtain ⟨rfl, hlong⟩ := h
      rw [validateAdminPassword_ok] at hlong
      have hrenewed : persisted host (written w (renew current requested)) =
          some (renew current requested) :=
        persisted_written w ((persisted_valid hcurrent).renew hlong)
      have hwritten : Onward host files (written w (renew current requested)) := by
        refine .inr (.inr ⟨current, requested, ?_, hrenewed⟩)
        rw [← persisted_congr hfiles]
        exact hcurrent
      refine Meets.bind (write_starts (renew current requested) honward hwritten) fun _ w' h => ?_
      rw [h]
      exact Meets.pure ⟨hwritten, hrenewed⟩

theorem createSecrets_starts (hfiles : files.secrets = none) :
    Meets Empty (createSecrets host environment tokens)
      (Starts host files (StartedWith host files)) files' := by
  have honward (w : Files) : Onward host files w := .inl hfiles
  refine Meets.bind (starts_of_unmoved look_unmoved (honward _)) fun database w h => ?_
  obtain ⟨rfl, -⟩ := h
  split_ifs
  · exact Meets.bind (starts_of_unmoved (V := fun _ => False) throw_unmoved (honward _))
      fun _ _ h => h.2.elim
  · refine Meets.bind (starts_of_unmoved ofExcept_unmoved (honward _)) fun _ w h => ?_
    obtain ⟨rfl, hsecret⟩ := h
    refine Meets.bind (starts_of_unmoved ofExcept_unmoved (honward _)) fun _ w h => ?_
    obtain ⟨rfl, hcredential⟩ := h
    refine Meets.bind (starts_of_unmoved ofExcept_unmoved (honward _)) fun _ w h => ?_
    obtain ⟨rfl, hpassword⟩ := h
    rw [validateKey_ok] at hsecret hcredential
    rw [validateAdminPassword_ok] at hpassword
    refine Meets.bind (write_starts _ (honward _) (honward _)) fun _ w' h => ?_
    rw [h]
    exact Meets.pure ⟨honward _, persisted_written w ⟨hsecret, hcredential, hpassword⟩⟩

theorem prepareRuntimeSecrets_starts (host : Host) (files : Files) (environment : Environment)
    (tokens : Tokens) :
    Meets Empty (prepareRuntimeSecrets host environment tokens)
      (Starts host files (StartedWith host files)) files := by
  have hensure : Meets Empty (ensureConfigDirectory host)
      (Starts host files fun _ w => w.secrets = files.secrets) files :=
    (Within.meets ensureConfigDirectory_keeps (fun _ => rfl) (fun h h' => h'.trans h)
      (fun i => i.elim) files).mono (fun _ _ h => h) (fun _ _ h => .inr (.inl h))
        (fun _ _ h => .inr (.inl h)) (fun _ h => .inr (.inl h)) fun _ _ h => h
  refine Meets.bind hensure fun _ w hw => ?_
  have honward : Onward host files w := .inr (.inl hw)
  refine Meets.bind (starts_of_unmoved refuseLink_unmoved honward) fun _ w' h => ?_
  obtain ⟨rfl, -⟩ := h
  refine Meets.bind (starts_of_unmoved look_unmoved honward) fun secrets w' h => ?_
  obtain ⟨rfl, hsecrets⟩ := h
  cases hsecrets
  cases hnode : w'.secrets with
  | none =>
    rw [hnode] at hw
    exact createSecrets_starts hw.symm
  | some node => exact prepareExisting_starts hw

end Starting

/-! ## Runs -/

/-- What a service has in its memory after it has started with these secrets. -/
def loaded (values : RuntimeSecrets) : AdminCredentialStore where
  password := values.adminPassword
  revision := values.adminSessionRevision

/-- Nothing has changed, or the revision has grown. -/
def Grown (store store' : AdminCredentialStore) : Prop :=
  store' = store ∨ store.revision < store'.revision

/-- Later secrets have the same keys. -/
structure Later (values values' : RuntimeSecrets) : Prop where
  secretKey : values'.secretKey = values.secretKey
  credentialEncryptionKey : values'.credentialEncryptionKey = values.credentialEncryptionKey
  grown : Grown (loaded values) (loaded values')

/-- What later secrets and a later memory have in common with an earlier memory. -/
structure After (host : Host) (store : AdminCredentialStore) (service : Service) : Prop where
  persisted : ∃ values, persisted host service.files = some values ∧ Grown store (loaded values)
  memory (store' : AdminCredentialStore) : service.memory = some store' → Grown store store'

/-- The memory is never ahead of the file, and the launcher has given it the path. -/
def Behind (host : Host) (service : Service) : Prop :=
  ∀ store, service.memory = some store →
    After host store service ∧ store.passwordChangeSupported = true

def Agree (host : Host) (service : Service) (store : AdminCredentialStore) : Prop :=
  ∃ values, persisted host service.files = some values ∧ loaded values = store

/-- The step is a call that raises although it has renewed the file. -/
def FailsLate (host : Host) (service : Service) : Happening → Prop
  | .change currentPassword newPassword faults =>
    (∃ store values, service.memory = some store ∧
      Accepted host service.files store currentPassword newPassword values) ∧
      RaisesAfterRename faults
  | .restart .. => False

/-- No step of the run fails late. -/
def Spotless (host : Host) : Service → List Happening → Prop
  | _, [] => True
  | service, happening :: rest =>
    ¬FailsLate host service happening ∧ Spotless host (service.step host happening) rest

section Grow
variable {store store' store'' : AdminCredentialStore} {values values' values'' : RuntimeSecrets}

theorem Grown.refl (store : AdminCredentialStore) : Grown store store := .inl rfl

theorem Grown.trans (h : Grown store store') (h' : Grown store' store'') : Grown store store'' := by
  rcases h with rfl | h
  · exact h'
  · rcases h' with rfl | h'
    · exact .inr h
    · exact .inr (lt_trans h h')

theorem later_renew (values : RuntimeSecrets) (newPassword : String) :
    Later values (renew values newPassword) where
  secretKey := rfl
  credentialEncryptionKey := rfl
  grown := .inr (Nat.lt_succ_self _)

theorem Later.refl (values : RuntimeSecrets) : Later values values := ⟨rfl, rfl, .refl _⟩

theorem Later.trans (h : Later values values') (h' : Later values' values'') :
    Later values values'' :=
  ⟨h'.secretKey.trans h.secretKey,
    h'.credentialEncryptionKey.trans h.credentialEncryptionKey, h.grown.trans h'.grown⟩

end Grow

section Steps
variable {host : Host} {service : Service} {files files' : Files} {values : RuntimeSecrets}

theorem Onward.later (h : Onward host files files') (hvalues : persisted host files = some values) :
    ∃ values', persisted host files' = some values' ∧ Later values values' := by
  rcases h with hnone | hsame | ⟨old, newPassword, hold, hnew⟩
  · obtain ⟨payload, hfile, -⟩ := persisted_some hvalues
    rw [hnone] at hfile
    cases hfile
  · exact ⟨values, (persisted_congr hsame).trans hvalues, .refl values⟩
  · rw [hvalues] at hold
    cases hold
    exact ⟨_, hnew, later_renew values newPassword⟩

/-- What one step can do to the file and to the memory. -/
inductive Stepped (host : Host) (service : Service) (happening : Happening) : Service → Prop where
  /-- The memory stays as it is, and so does the file unless the step fails late. -/
  | kept (files : Files) (onward : Onward host service.files files)
      (same : ¬FailsLate host service happening → files.secrets = service.files.secrets) :
      Stepped host service happening ⟨files, service.memory⟩
  /-- The memory is that of the file. -/
  | loaded (files : Files) (values : RuntimeSecrets) (onward : Onward host service.files files)
      (agree : persisted host files = some values) :
      Stepped host service happening ⟨files, some (loaded values)⟩
  | down (files : Files) (onward : Onward host service.files files) :
      Stepped host service happening ⟨files, none⟩

theorem stepped (host : Host) (service : Service) (happening : Happening) :
    Stepped host service happening (service.step host happening) := by
  cases happening with
  | change currentPassword newPassword faults =>
    cases hmemory : service.memory with
    | none =>
      have hstep : service.step host (.change currentPassword newPassword faults) =
          ⟨service.files, service.memory⟩ := by
        obtain ⟨files, memory⟩ := service
        cases hmemory
        rfl
      rw [hstep]
      exact .kept _ (.inr (.inl rfl)) fun _ => rfl
    | some store =>
      rcases hrun : (changePassword host store currentPassword newPassword).run faults
        service.files with ⟨r, files, rest⟩
      rw [step_change hmemory hrun]
      cases called_of_run hrun with
      | returned values files' accepted early renewed =>
        obtain ⟨-, -, -, -, hsupported⟩ := checkPasswords_ok accepted.checked
        have hloaded : memoryAfter store (.value { store with
            password := newPassword
            revision := values.adminSessionRevision + 1 }) =
            some (loaded (renew values newPassword)) := by
          unfold memoryAfter loaded renew
          rw [hsupported]
        rw [hloaded]
        exact .loaded _ _ (.inr (.inr ⟨values, newPassword, accepted.persisted, renewed⟩)) renewed
      | raised e files' early same =>
        unfold memoryAfter
        rw [← hmemory]
        exact .kept _ (.inr (.inl same)) fun _ => same
      | raisedLate e values files' accepted late renewed =>
        unfold memoryAfter
        rw [← hmemory]
        exact .kept _ (.inr (.inr ⟨values, newPassword, accepted.persisted, renewed⟩))
          fun hearly => absurd ⟨⟨store, values, hmemory, accepted⟩, late⟩ hearly
      | crashed files' either =>
        refine .down _ (.inr ?_)
        rcases either with hsame | ⟨values, hvalues, hrenewed⟩
        · exact .inl hsame
        · exact .inr ⟨values, newPassword, hvalues, hrenewed⟩
  | restart environment tokens faults =>
    have hstarts := (prepareRuntimeSecrets_starts host service.files environment tokens faults).1
    unfold Service.step
    rcases hrun : (prepareRuntimeSecrets host environment tokens).run faults service.files with
      ⟨r, files, rest⟩
    rw [hrun] at hstarts
    dsimp only
    rw [hrun]
    cases r with
    | value values =>
      obtain ⟨⟨honward, hvalues⟩, -⟩ := hstarts
      change Stepped host service _ ⟨files, started values⟩
      unfold started
      split_ifs
      · exact .down _ honward
      · exact .loaded _ values honward hvalues
    | raised e => exact .down _ hstarts.1
    | crashed => exact .down _ hstarts.1

variable {happening : Happening} {service' : Service}

theorem Stepped.onward (h : Stepped host service happening service') :
    Onward host service.files service'.files := by
  cases h with
  | kept files onward same => exact onward
  | loaded files values onward agree => exact onward
  | down files onward => exact onward

theorem Stepped.after {store : AdminCredentialStore}
    (h : Stepped host service happening service') (hafter : After host store service) :
    After host store service' := by
  obtain ⟨values, hvalues, hgrown⟩ := hafter.persisted
  obtain ⟨values', hvalues', hlater⟩ := h.onward.later hvalues
  refine ⟨⟨values', hvalues', hgrown.trans hlater.grown⟩, fun store' hmemory => ?_⟩
  cases h with
  | kept files onward same => exact hafter.memory store' hmemory
  | loaded files loadedValues onward agree =>
    rw [hvalues'] at agree
    cases agree
    cases hmemory
    exact hgrown.trans hlater.grown
  | down files onward => cases hmemory

/-- The memory is never ahead of the file. -/
theorem Stepped.behind (h : Stepped host service happening service')
    (hbehind : Behind host service) : Behind host service' := by
  intro store hmemory
  cases h with
  | kept files onward same =>
    obtain ⟨hafter, hsupported⟩ := hbehind store hmemory
    exact ⟨Stepped.after (.kept files onward same) hafter, hsupported⟩
  | loaded files values onward agree =>
    cases hmemory
    refine ⟨⟨⟨values, agree, .refl _⟩, fun store' hsame => ?_⟩, rfl⟩
    cases hsame
    exact .refl _
  | down files onward => cases hmemory

theorem behind_run (service : Service) (happenings : List Happening) (h : Behind host service) :
    Behind host (service.run host happenings) := by
  induction happenings generalizing service with
  | nil => exact h
  | cons happening rest ih => exact ih _ ((stepped host service happening).behind h)

theorem after_run {store : AdminCredentialStore} (service : Service) (happenings : List Happening)
    (h : After host store service) : After host store (service.run host happenings) := by
  induction happenings generalizing service with
  | nil => exact h
  | cons happening rest ih => exact ih _ ((stepped host service happening).after h)

theorem later_run (service : Service) (happenings : List Happening)
    (hvalues : persisted host service.files = some values) :
    ∃ values', persisted host (service.run host happenings).files = some values' ∧
      Later values values' := by
  induction happenings generalizing service values with
  | nil => exact ⟨values, hvalues, .refl values⟩
  | cons happening rest ih =>
    obtain ⟨values', hvalues', hlater⟩ := (stepped host service happening).onward.later hvalues
    obtain ⟨values'', hvalues'', hlater'⟩ := ih _ hvalues'
    exact ⟨values'', hvalues'', hlater.trans hlater'⟩

/-! ### Runs without late failures -/

/-- Memory and file agree when no step fails late. -/
theorem Stepped.agree (h : Stepped host service happening service')
    (hearly : ¬FailsLate host service happening)
    (hagree : ∀ store, service.memory = some store → Agree host service store)
    (store : AdminCredentialStore) (hmemory : service'.memory = some store) :
    Agree host service' store := by
  cases h with
  | kept files onward same =>
    obtain ⟨values, hvalues, hloaded⟩ := hagree store hmemory
    exact ⟨values, (persisted_congr (same hearly)).trans hvalues, hloaded⟩
  | loaded files values onward agree =>
    cases hmemory
    exact ⟨values, agree, rfl⟩
  | down files onward => cases hmemory

theorem agree_run (service : Service) (happenings : List Happening)
    (hspotless : Spotless host service happenings)
    (hagree : ∀ store, service.memory = some store → Agree host service store) :
    ∀ store, (service.run host happenings).memory = some store →
      Agree host (service.run host happenings) store := by
  induction happenings generalizing service with
  | nil => exact hagree
  | cons happening rest ih =>
    exact ih _ hspotless.2 ((stepped host service happening).agree hspotless.1 hagree)

end Steps

/-! ## Later calls -/

def Ascii (text : String) : Prop := ∀ c ∈ text.toList, c.toNat < 128

/-- A call with the correct password succeeds when nothing raises. -/
def CanChange (host : Host) (service : Service) (store : AdminCredentialStore) : Prop :=
  ∃ newPassword store', ((changePassword host store store.password newPassword).run
    ([] : Schedule Empty) service.files).1 = .value store'

section LaterCalls
variable {host : Host} {service : Service} {store : AdminCredentialStore} {newPassword : String}

theorem compareDigest_ok {a b : String} {same : Bool} :
    compareDigest a b = .ok same ↔ Ascii a ∧ Ascii b ∧ same = decide (a = b) := by
  unfold compareDigest Ascii
  split_ifs with hascii
  · simp only [List.all_append, Bool.and_eq_true, List.all_eq_true, decide_eq_true_eq] at hascii
    constructor
    · intro h
      exact ⟨hascii.1, hascii.2, (Except.ok.inj h).symm⟩
    · rintro ⟨-, -, rfl⟩
      rfl
  · simp only [List.all_append, Bool.and_eq_true, List.all_eq_true, decide_eq_true_eq] at hascii
    constructor
    · intro h
      cases h
    · rintro ⟨ha, hb, -⟩
      exact absurd ⟨ha, hb⟩ hascii

/-- Where memory and file agree, the file refuses nothing that the memory admits. -/
theorem Agree.accepted (h : Agree host service store)
    (hchecked : checkPasswords store store.password newPassword = .ok ()) :
    ∃ values, Accepted host service.files store store.password newPassword values := by
  obtain ⟨values, hvalues, hloaded⟩ := h
  obtain ⟨-, -, hcurrent, -, -⟩ := checkPasswords_ok hchecked
  subst hloaded
  exact ⟨values, hchecked, hvalues, rfl, hcurrent⟩

theorem Agree.succeeds (h : Agree host service store)
    (hchecked : checkPasswords store store.password newPassword = .ok ()) :
    ∃ store', ((changePassword host store store.password newPassword).run
      ([] : Schedule Empty) service.files).1 = .value store' := by
  obtain ⟨values, haccepted⟩ := h.accepted hchecked
  rw [(changePassword_straight haccepted).returns [] (spared_nil 16)]
  exact ⟨_, rfl⟩

/-- Some password passes the checks. -/
theorem exists_checked (hascii : Ascii store.password)
    (hsupported : store.passwordChangeSupported) :
    ∃ newPassword, checkPasswords store store.password newPassword = .ok () := by
  have hpasses (newPassword : String) (hne : newPassword ≠ store.password)
      (hform : ¬(newPassword.length < minimumOnlinePasswordLength ∨
        maximumOnlinePasswordLength < newPassword.length ∨
          PythonText.strip newPassword.toList = []))
      (hbootstrap : compareDigest newPassword bootstrapAdminPassword = .ok false) :
      checkPasswords store store.password newPassword = .ok () := by
    have hnew := (compareDigest_ok.mp hbootstrap).1
    have hcurrent : compareDigest store.password store.password = .ok true :=
      compareDigest_ok.mpr ⟨hascii, hascii, by simp⟩
    have hdiffers : compareDigest newPassword store.password = .ok false :=
      compareDigest_ok.mpr ⟨hnew, hascii, by simp [hne]⟩
    unfold checkPasswords
    rw [if_neg hform, hbootstrap, hcurrent, hdiffers, hsupported]
    rfl
  by_cases hfirst : "password-1" = store.password
  · refine ⟨"password-2", hpasses _ ?_ (by decide) (by decide)⟩
    rw [← hfirst]
    decide
  · exact ⟨"password-1", hpasses _ hfirst (by decide) (by decide)⟩

theorem canChange_iff (hsupported : store.passwordChangeSupported) :
    CanChange host service store ↔ Agree host service store ∧ Ascii store.password := by
  constructor
  · rintro ⟨newPassword, store', hvalue⟩
    rcases hrun : (changePassword host store store.password newPassword).run ([] : Schedule Empty)
      service.files with ⟨r, files, rest⟩
    rw [hrun] at hvalue
    dsimp only at hvalue
    subst hvalue
    cases called_of_run hrun with
    | returned values files' accepted early renewed =>
      obtain ⟨-, hascii, hsame⟩ := compareDigest_ok.mp accepted.password
      have hpassword : values.adminPassword = store.password := by simpa using hsame.symm
      refine ⟨⟨values, accepted.persisted, ?_⟩, hascii⟩
      unfold loaded
      rw [hpassword, accepted.revision]
      cases store
      cases hsupported
      rfl
  · rintro ⟨hagree, hascii⟩
    obtain ⟨newPassword, hchecked⟩ := exists_checked hascii hsupported
    exact ⟨newPassword, hagree.succeeds hchecked⟩

end LaterCalls

/-- In whatever state calls and starts leave the service, a call is all or
nothing if and only if it does not fail late; without late failures memory and
file agree; a later call can succeed if and only if they do and the password is
one that can be compared; and whatever happens then, the keys stay as they are
and the revision grows with every change. -/
theorem password_changes (host : Host) (files : Files) (happenings : List Happening) :
    let service := Service.run host { files := files } happenings
    (∀ store currentPassword newPassword faults, service.memory = some store →
      (∀ e ∈ faults, e.fault ≠ .crash) →
      (AllOrNothing host service store currentPassword newPassword faults ↔
        ¬FailsLate host service (.change currentPassword newPassword faults))) ∧
    (Spotless host { files := files } happenings →
      ∀ store, service.memory = some store → Agree host service store) ∧
    (∀ store, service.memory = some store →
      (CanChange host service store ↔ Agree host service store ∧ Ascii store.password)) ∧
    ∀ later,
      (∀ values, persisted host service.files = some values →
        ∃ values', persisted host (service.run host later).files = some values' ∧
          Later values values') ∧
      ∀ store store', service.memory = some store →
        (service.run host later).memory = some store' → Grown store store' := by
  intro service
  have hbehind : Behind host service := behind_run _ happenings fun store h => nomatch h
  refine ⟨?_, ?_, ?_, fun later => ⟨?_, ?_⟩⟩
  · intro store currentPassword newPassword faults hmemory hraises
    rw [allOrNothing_iff hmemory hraises]
    unfold FailsLate
    rw [hmemory]
    simp
  · intro hspotless
    exact agree_run _ happenings hspotless fun store h => nomatch h
  · intro store hmemory
    exact canChange_iff (hbehind store hmemory).2
  · exact fun values hvalues => later_run service later hvalues
  · intro store store' hmemory hmemory'
    exact (after_run service later (hbehind store hmemory).1).memory store' hmemory'

/-! ## A call that fails late -/

def sampleHost : Host where
  dataPath := "/data"
  configPath := "/data/config"
  secretsPath := "/data/config/runtime-secrets.json"
  lower text := text
  floatIsOne text := text = "1.0"

def sampleSecrets : RuntimeSecrets where
  secretKey := "session-secret-key"
  credentialEncryptionKey := "credential-secret-key"
  adminPassword := "old-strong-password"

def sampleFiles : Files where
  data := some .directory
  config := some .directory
  secrets := some (.file (some (encode sampleSecrets)))

def sampleService : Service :=
  Service.run sampleHost { files := sampleFiles } [.restart {} ⟨"", "", ""⟩ []]

/-- The `chmod` that follows the rename raises. -/
def chmodRaises : Schedule Empty := List.replicate 12 { fault := .none } ++ [{ fault := .lost }]

theorem sampleService_memory : sampleService.memory = some (loaded sampleSecrets) := by
  decide +kernel

theorem sampleService_accepted : Accepted sampleHost sampleService.files (loaded sampleSecrets)
    "old-strong-password" "new-strong-password" sampleSecrets where
  checked := by decide +kernel
  persisted := by decide +kernel
  revision := rfl
  password := by decide +kernel

/-- The file has the new password, and the service still wants the old one. -/
theorem late_failure_splits : ¬AllOrNothing sampleHost sampleService (loaded sampleSecrets)
    "old-strong-password" "new-strong-password" chmodRaises := by
  rw [allOrNothing_iff sampleService_memory (by decide), not_not]
  exact ⟨⟨sampleSecrets, sampleService_accepted⟩, 12, .lost, rfl, by decide, by decide,
    .inl (by decide)⟩

end MediaSync.PasswordChanges
