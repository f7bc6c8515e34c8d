import ReplyPipeline.Proofs.IntegerText
import ReplyPipeline.Settings

/-!
# What the URLs of the servers tell

The URLs of the broker and of the store are put together from texts that stand in them as they are,
the marks between them included. `urls_tell_settings_apart` says what two settings with the same URL
have in common: all of it, as soon as their texts hold equally many of the marks that end them, up
to how a virtual host is written. The port and the number of the database are told in any case for
the store, but not for the broker.
-/
namespace ReplyPipeline

open Decimal (intText natText)

section Marks

variable {l l' r r' : List Char} {c : Char}

theorem append_cons_inj (same : l ++ c :: r = l' ++ c :: r') (marks : l.count c = l'.count c) :
    l = l' ∧ r = r' := by
  induction l generalizing l' with
  | nil =>
    cases l' with
    | nil => exact ⟨rfl, (List.cons.inj same).2⟩
    -- the mark that one text is cut at would stand in front of the cut of the other
    | cons d l' =>
      obtain rfl : c = d := (List.cons.inj same).1
      simp at marks
  | cons d l ih =>
    cases l' with
    | nil =>
      obtain rfl : d = c := (List.cons.inj same).1
      simp at marks
    | cons d' l' =>
      obtain ⟨rfl, rest⟩ := List.cons.inj same
      rw [List.count_cons, List.count_cons, Nat.add_right_cancel_iff] at marks
      obtain ⟨rfl, rfl⟩ := ih rest marks
      exact ⟨rfl, rfl⟩

theorem append_cons_inj_of_back (same : l ++ c :: r = l' ++ c :: r')
    (marks : r.count c = r'.count c) : l = l' ∧ r = r' := by
  apply append_cons_inj same
  have all := congrArg (List.count c) same
  rw [List.count_append, List.count_append, List.count_cons_self, List.count_cons_self] at all
  omega

theorem count_natText (digit : c.isDigit = false) (n : Nat) : (natText n).count c = 0 :=
  List.count_eq_zero.2 (Decimal.not_mem_natText digit n)

/-- The port is what stands behind the last colon. -/
theorem port_inj {p q : UInt16}
    (same : l ++ ':' :: natText p.toNat = l' ++ ':' :: natText q.toNat) : l = l' ∧ p = q := by
  have colons : (natText p.toNat).count ':' = (natText q.toNat).count ':' := by
    rw [count_natText rfl, count_natText rfl]
  obtain ⟨place, digits⟩ := append_cons_inj_of_back same colons
  exact ⟨place, UInt16.toNat_inj.1 (Decimal.natText_injective digits)⟩

end Marks

/-! ## The broker -/

/-- A virtual host without the slashes in front. -/
def bareVhost (v : String) : List Char := v.toList.dropWhile (· == '/')

/-- Two virtual hosts differ in the slashes in front only, or one is `/` and the other the code of
a slash. -/
def VhostsAlike (v w : String) : Prop :=
  v = w ∨ v ≠ "/" ∧ w ≠ "/" ∧ bareVhost v = bareVhost w ∨
    v = "/" ∧ bareVhost w = ['%', '2', 'f'] ∨ w = "/" ∧ bareVhost v = ['%', '2', 'f']

namespace BrokerSettings

/-- The settings of a connection are the same, up to how the virtual host is written. -/
structure SameConnection (s t : BrokerSettings) : Prop where
  user : s.user = t.user
  password : s.password = t.password
  host : s.host = t.host
  port : s.port = t.port
  vhost : VhostsAlike s.vhost t.vhost

/-- The texts hold equally many of the marks that end them in a URL. -/
structure SameMarks (s t : BrokerSettings) : Prop where
  user : s.user.toList.count ':' = t.user.toList.count ':'
  password : s.password.toList.count '@' = t.password.toList.count '@'
  host : s.host.toList.count '/' = t.host.toList.count '/'

/-- A virtual host as it is written. -/
def writtenVhost (v : String) : List Char := if v = "/" then ['%', '2', 'f'] else bareVhost v

theorem writtenVhost_eq_iff {v w : String} : writtenVhost v = writtenVhost w ↔ VhostsAlike v w := by
  unfold writtenVhost VhostsAlike
  by_cases hv : v = "/" <;> by_cases hw : w = "/"
  · simp [hv, hw]
  · simp [hv, hw, Ne.symm hw, eq_comm]
  · simp [hv, hw]
  · simp only [hv, hw, if_false, ne_eq, not_false_eq_true, true_and, false_and, or_false]
    exact ⟨.inr, fun alike => alike.elim (congrArg bareVhost) id⟩

theorem toList_url (s : BrokerSettings) :
    s.url.toList = "amqp://".toList ++ (s.user.toList ++ ':' :: (s.password.toList ++ '@' ::
      ((s.host.toList ++ ':' :: natText s.port.toNat) ++ '/' :: writtenVhost s.vhost))) := by
  have vhost : (if s.vhost = "/" then "%2f"
      else String.ofList (s.vhost.toList.dropWhile (· == '/'))) =
        String.ofList (writtenVhost s.vhost) := by
    unfold writtenVhost bareVhost
    split <;> rfl
  unfold url
  rw [vhost]
  simp [String.toList_append, Decimal.showNat]

variable {s t : BrokerSettings}

theorem SameConnection.url_eq (h : s.SameConnection t) : s.url = t.url := by
  apply String.toList_inj.1
  rw [toList_url, toList_url, h.user, h.password, h.host, h.port, writtenVhost_eq_iff.2 h.vhost]

theorem SameConnection.marks (h : s.SameConnection t) : s.SameMarks t :=
  ⟨by rw [h.user], by rw [h.password], by rw [h.host]⟩

/-- The URL is taken apart from the front: the user ends at a colon, the password at an at sign and
the host with its port at a slash. -/
theorem SameMarks.connection (marks : s.SameMarks t) (same : s.url = t.url) :
    s.SameConnection t := by
  have chars := congrArg String.toList same
  rw [toList_url, toList_url, List.append_cancel_left_eq] at chars
  obtain ⟨user, chars⟩ := append_cons_inj chars marks.user
  obtain ⟨password, chars⟩ := append_cons_inj chars marks.password
  have slashes (u : BrokerSettings) :
      (u.host.toList ++ ':' :: natText u.port.toNat).count '/' = u.host.toList.count '/' := by
    rw [List.count_append, List.count_cons_of_ne (by decide), count_natText rfl, Nat.add_zero]
  obtain ⟨server, vhost⟩ := append_cons_inj chars (by rw [slashes, slashes, marks.host])
  obtain ⟨host, port⟩ := port_inj server
  exact ⟨String.toList_inj.1 user, String.toList_inj.1 password, String.toList_inj.1 host, port,
    writtenVhost_eq_iff.1 vhost⟩

end BrokerSettings

/-! ## The store -/

namespace StoreSettings

/-- What stands in front of the host. -/
def login : Option String → List Char
  | none => []
  | some p => ':' :: (p.toList ++ ['@'])

theorem toList_url (s : StoreSettings) :
    s.url.toList = "redis://".toList ++ ((login s.password ++ s.host.toList) ++
      ':' :: natText s.port.toNat ++ '/' :: intText s.database.toInt) := by
  unfold url
  cases s.password with
  | none => simp [login, String.toList_append, Decimal.showNat, Decimal.showInt]
  | some p => simp [login, String.toList_append, Decimal.showNat, Decimal.showInt]

theorem login_append_ne {p : String} {h k : List Char} (marks : h.count '@' = k.count '@') :
    login (some p) ++ h ≠ k := by
  intro same
  have all := congrArg (List.count '@') same
  simp [login] at all
  omega

/-- A login and a host are told apart if the hosts hold equally many at signs. -/
theorem login_append_inj {p q : Option String} {h k : List Char}
    (same : login p ++ h = login q ++ k) (marks : h.count '@' = k.count '@') : p = q ∧ h = k := by
  cases p with
  | none =>
    cases q with
    | none => exact ⟨rfl, same⟩
    | some q => exact absurd same.symm (login_append_ne marks.symm)
  | some p =>
    cases q with
    | none => exact absurd same (login_append_ne marks)
    | some q =>
      simp only [login, List.cons_append, List.append_assoc, List.nil_append] at same
      obtain ⟨password, host⟩ := append_cons_inj_of_back (List.cons.inj same).2 marks
      rw [String.toList_inj.1 password]
      exact ⟨rfl, host⟩

variable {s t : StoreSettings}

/-- The number of the database stands behind the last slash, and the port before it. -/
theorem server_of_url_eq (same : s.url = t.url) :
    s.port = t.port ∧ s.database = t.database ∧
      login s.password ++ s.host.toList = login t.password ++ t.host.toList := by
  have chars := congrArg String.toList same
  rw [toList_url, toList_url, List.append_cancel_left_eq] at chars
  have slash (n : Int) : (intText n).count '/' = 0 :=
    List.count_eq_zero.2 (Decimal.not_mem_intText rfl (by decide) n)
  obtain ⟨server, database⟩ := append_cons_inj_of_back chars (by rw [slash, slash])
  obtain ⟨place, port⟩ := port_inj server
  exact ⟨port, Int64.toInt_inj.1 (Decimal.intText_injective database), place⟩

theorem url_congr (password : s.password = t.password) (host : s.host = t.host)
    (port : s.port = t.port) (database : s.database = t.database) : s.url = t.url := by
  unfold url
  rw [password, host, port, database]

end StoreSettings

namespace Settings

/-- For the broker two settings have the same URL, and equally many marks in the texts that end at
them, exactly if they are for the same connection, up to how the virtual host is written. For the
store the URL always tells the port and the number of the database, and with equally many at signs
in the hosts it tells all. Nothing is assumed of the settings, so it is true of all that come out of
an environment; where no text has a mark in it there are equally many. -/
theorem urls_tell_settings_apart :
    (∀ s t : BrokerSettings, s.url = t.url ∧ s.SameMarks t ↔ s.SameConnection t) ∧
    ∀ s t : StoreSettings,
      (s.url = t.url → s.port = t.port ∧ s.database = t.database) ∧
      (s.url = t.url ∧ s.host.toList.count '@' = t.host.toList.count '@' ↔
        s.password = t.password ∧ s.host = t.host ∧ s.port = t.port ∧
          s.database = t.database) := by
  refine ⟨fun s t => ⟨?_, fun h => ⟨h.url_eq, h.marks⟩⟩, fun s t => ⟨?_, ?_⟩⟩
  · rintro ⟨same, marks⟩
    exact marks.connection same
  · intro same
    obtain ⟨port, database, -⟩ := StoreSettings.server_of_url_eq same
    exact ⟨port, database⟩
  · constructor
    · rintro ⟨same, marks⟩
      obtain ⟨port, database, place⟩ := StoreSettings.server_of_url_eq same
      obtain ⟨password, host⟩ := StoreSettings.login_append_inj place marks
      exact ⟨password, String.toList_inj.1 host, port, database⟩
    · rintro ⟨password, host, port, database⟩
      exact ⟨StoreSettings.url_congr password host port database, by rw [host]⟩

def ofTexts (texts : List (String × String)) : Environment := fun key => texts.lookup key

/-- A slash before the virtual host makes no difference, and a colon in the name of the user does
no harm if both have it. -/
theorem urls_tell_settings_apart_of_slash :
    ∃ s t, load (ofTexts [("RABBITMQ_USER", "a:b"), ("RABBITMQ_VHOST", "/prod")]) = .ok s ∧
      load (ofTexts [("RABBITMQ_USER", "a:b"), ("RABBITMQ_VHOST", "prod")]) = .ok t ∧
      s.broker.vhost ≠ t.broker.vhost ∧ s.broker.SameConnection t.broker := by
  refine ⟨_, _, rfl, rfl, by decide, ?_⟩
  apply (urls_tell_settings_apart.1 _ _).1 ⟨by decide, ?_⟩
  exact ⟨rfl, rfl, rfl⟩

/-- Settings out of environments agree in a field if they have the same URL. -/
def Tells {α : Type} (url : Settings → String) (field : Settings → α) : Prop :=
  ∀ env env' s t, load env = .ok s → load env' = .ok t → url s = url t → field s = field t

def colonInUser : Environment := ofTexts [("RABBITMQ_USER", "a:b"), ("RABBITMQ_PASS", "c")]

def colonInPassword : Environment := ofTexts [("RABBITMQ_USER", "a"), ("RABBITMQ_PASS", "b:c")]

def slashInHost : Environment :=
  ofTexts [("RABBITMQ_HOST", "h:1/x"), ("RABBITMQ_PORT", "2"), ("RABBITMQ_VHOST", "y")]

def slashInVhost : Environment :=
  ofTexts [("RABBITMQ_HOST", "h"), ("RABBITMQ_PORT", "1"), ("RABBITMQ_VHOST", "x:2/y")]

def atInHost : Environment := ofTexts [("REDIS_HOST", ":p@h")]

def atBeforeHost : Environment := ofTexts [("REDIS_PASSWORD", "p"), ("REDIS_HOST", "h")]

/-- The URL of the broker tells none of the settings that it is made of, and that of the store
neither password nor host. -/
theorem urls_not_all_telling :
    ¬ Tells (·.broker.url) (·.broker.user) ∧ ¬ Tells (·.broker.url) (·.broker.password) ∧
    ¬ Tells (·.broker.url) (·.broker.host) ∧ ¬ Tells (·.broker.url) (·.broker.port) ∧
    ¬ Tells (·.broker.url) (·.broker.vhost) ∧
    ¬ Tells (·.store.url) (·.store.password) ∧ ¬ Tells (·.store.url) (·.store.host) := by
  refine ⟨fun tells => ?_, fun tells => ?_, fun tells => ?_, fun tells => ?_, fun tells => ?_,
    fun tells => ?_, fun tells => ?_⟩
  · exact absurd (tells colonInUser colonInPassword _ _ rfl rfl (by decide)) (by decide)
  · exact absurd (tells colonInUser colonInPassword _ _ rfl rfl (by decide)) (by decide)
  · exact absurd (tells slashInHost slashInVhost _ _ rfl rfl (by decide)) (by decide)
  · exact absurd (tells slashInHost slashInVhost _ _ rfl rfl (by decide)) (by decide)
  · exact absurd (tells (ofTexts [("RABBITMQ_VHOST", "/x")]) (ofTexts [("RABBITMQ_VHOST", "x")])
      _ _ rfl rfl (by decide)) (by decide)
  · exact absurd (tells atInHost atBeforeHost _ _ rfl rfl (by decide)) (by decide)
  · exact absurd (tells atInHost atBeforeHost _ _ rfl rfl (by decide)) (by decide)

end Settings
end ReplyPipeline
