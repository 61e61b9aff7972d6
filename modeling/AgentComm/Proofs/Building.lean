import AgentComm.Broker.Config

/-!
# What the validator lets through and the builder makes

The validator warns, in development, about files that cannot be read and about transport encryption
that is not configured. The builder loads whatever files are named, and the server insists on TLS
where it is to ask for client certificates.
-/

namespace AgentComm

open Lib

variable {P : Python} {host : Host} {vars : PyStr → Option PyStr} {c : BrokerConfig}

namespace BrokerConfig

/-- A configuration that names a certificate and a key. -/
def tlsSet (c : BrokerConfig) : Bool := c.tlsCert.isSome && c.tlsKey.isSome

variable (host) in
/-- The certificate and the key are named and both can be read. -/
def TlsReadable (c : BrokerConfig) : Prop :=
  ∃ cert key, c.tlsCert = some cert ∧ c.tlsKey = some key
    ∧ host.readable cert = true ∧ host.readable key = true

variable (host) in
/-- The builder makes a server, with TLS exactly when its files can be read, and always in
production. -/
def Agrees (c : BrokerConfig) : Prop :=
  ∃ srv, buildBroker host c = .ok srv ∧ (srv.tls.isSome = true ↔ c.TlsReadable host)
    ∧ (c.isProd = true → srv.tls.isSome = true)

variable (host) in
/-- The files named can be used: certificate and key read, the CA bundle loaded where there is TLS,
the audit log opened. Client certificates are asked for over TLS only. -/
structure Buildable (c : BrokerConfig) : Prop where
  tls : c.tlsSet = true → c.TlsReadable host
  ca : ∀ ca, c.tlsSet = true → c.tlsCa = some ca → host.loadVerifyLocations ca = .ok ()
  client : c.requireClientCert = true → c.tlsSet = true
  audit : ∀ path, c.auditLog = some path → host.openAppend path = .ok ()

theorem tlsSet_iff : c.tlsSet = true ↔ ∃ cert key, c.tlsCert = some cert ∧ c.tlsKey = some key := by
  simp [tlsSet, Option.isSome_iff_exists]

theorem TlsReadable.tlsSet (h : c.TlsReadable host) : c.tlsSet = true := by
  obtain ⟨cert, key, hcert, hkey, -⟩ := h
  exact tlsSet_iff.2 ⟨cert, key, hcert, hkey⟩

theorem validate_of_fromEnv (h : fromEnv P host vars = .ok c) :
    ∃ warnings, c.validate P host = .ok warnings := by
  obtain ⟨c', -, h⟩ := bind_eq_ok h
  obtain ⟨warnings, hv, h⟩ := bind_eq_ok h
  cases h
  exact ⟨warnings, hv⟩

/-- What is valid for production names a certificate and a key that can be read. -/
theorem tlsReadable_of_validate {warnings : List PyStr} (h : c.validate P host = .ok warnings)
    (hprod : c.isProd = true) : c.TlsReadable host := by
  obtain ⟨tls, htls, -⟩ := bind_eq_ok h
  rw [validateTls, if_pos hprod] at htls
  rcases hcert : c.tlsCert with _ | cert
  · simp only [hcert] at htls
    cases htls
  rcases hkey : c.tlsKey with _ | key
  · simp only [hcert, hkey] at htls
    cases htls
  simp only [hcert, hkey] at htls
  split_ifs at htls with hc hk
  exact ⟨cert, key, hcert, hkey, by simpa using hc, by simpa using hk⟩

/-- Where client certificates are asked for, the CA bundle can be read. -/
theorem ca_of_validate {warnings : List PyStr} (h : c.validate P host = .ok warnings)
    (hclient : c.requireClientCert = true) :
    ∃ ca, c.tlsCa = some ca ∧ host.readable ca = true := by
  obtain ⟨tls, -, h⟩ := bind_eq_ok h
  obtain ⟨_, hca, -⟩ := bind_eq_ok h
  rw [validateClientCert, if_pos hclient] at hca
  rcases hset : c.tlsCa with _ | ca
  · simp only [hset] at hca
    cases hca
  · simp only [hset] at hca
    split_ifs at hca with hread
    exact ⟨ca, rfl, hread⟩

end BrokerConfig

open BrokerConfig

/-! ### The builder -/

theorem buildTls_ok {tls : Option TlsContext} (h : buildTls host c = .ok tls) :
    tls.isSome = c.tlsSet
      ∧ ∀ ca, c.tlsSet = true → c.tlsCa = some ca → host.loadVerifyLocations ca = .ok () := by
  unfold buildTls at h
  rcases hcert : c.tlsCert with _ | cert
  · simp only [hcert] at h
    cases h
    simp [tlsSet, hcert]
  rcases hkey : c.tlsKey with _ | key
  · simp only [hcert, hkey] at h
    cases h
    simp [tlsSet, hkey]
  simp only [hcert, hkey] at h
  obtain ⟨⟨⟩, -, h⟩ := bind_eq_ok h
  rcases hca : c.tlsCa with _ | ca <;> simp only [hca] at h
  · cases h
    exact ⟨(tlsSet_iff.2 ⟨cert, key, hcert, hkey⟩).symm, fun _ _ h => by cases h⟩
  · obtain ⟨⟨⟩, hload, h⟩ := bind_eq_ok h
    cases h
    refine ⟨(tlsSet_iff.2 ⟨cert, key, hcert, hkey⟩).symm, fun ca' _ hset => ?_⟩
    obtain rfl := Option.some.inj hset
    exact hload

/-- The context is made when the files named can be used. -/
theorem buildTls_total
    (hload : ∀ cert key, host.readable cert = true → host.readable key = true →
      host.loadCertChain cert key = .ok ()) (h : Buildable host c) :
    ∃ tls, buildTls host c = .ok tls := by
  unfold buildTls
  rcases hcert : c.tlsCert with _ | cert
  · exact ⟨none, rfl⟩
  rcases hkey : c.tlsKey with _ | key
  · exact ⟨none, rfl⟩
  have hset := tlsSet_iff.2 ⟨cert, key, hcert, hkey⟩
  obtain ⟨cert', key', hcert', hkey', hrc, hrk⟩ := h.tls hset
  obtain rfl := Option.some.inj (hcert.symm.trans hcert')
  obtain rfl := Option.some.inj (hkey.symm.trans hkey')
  have hchain := hload cert key hrc hrk
  rcases hca : c.tlsCa with _ | ca
  · simp only [hchain]
    exact ⟨_, rfl⟩
  · simp only [hchain, h.ca ca hset hca]
    exact ⟨_, rfl⟩

theorem buildBroker_ok {srv : BrokerServer} (h : buildBroker host c = .ok srv) :
    buildTls host c = .ok srv.tls ∧ (c.requireClientCert = true → srv.tls.isSome = true)
      ∧ ∀ path, c.auditLog = some path → host.openAppend path = .ok () := by
  obtain ⟨tls, htls, h⟩ := bind_eq_ok h
  dsimp only at h
  split_ifs at h with hclient
  · obtain ⟨_, hthrow, -⟩ := bind_eq_ok h
    cases hthrow
  obtain ⟨⟨⟩, -, h⟩ := bind_eq_ok h
  have hask : c.requireClientCert = true → tls.isSome = true := by
    intro hr
    by_contra hn
    exact hclient ⟨hr, by simpa using hn⟩
  rcases hlog : c.auditLog with _ | path <;> simp only [hlog] at h
  · cases h
    exact ⟨htls, hask, fun _ h => by cases h⟩
  · obtain ⟨⟨⟩, hopen, h⟩ := bind_eq_ok h
    cases h
    refine ⟨htls, hask, fun path' hpath => ?_⟩
    obtain rfl := Option.some.inj hpath
    exact hopen

theorem buildBroker_total {tls : Option TlsContext} (htls : buildTls host c = .ok tls)
    (hclient : c.requireClientCert = true → tls.isSome = true)
    (hbind : host.bind c.host c.port = .ok ())
    (haudit : ∀ path, c.auditLog = some path → host.openAppend path = .ok ()) :
    ∃ srv, buildBroker host c = .ok srv := by
  have hask : ¬ (c.requireClientCert = true ∧ tls.isNone = true) := by
    rintro ⟨hr, hn⟩
    simp [Option.isNone_iff_eq_none.1 hn] at hclient
    simp [hclient] at hr
  simp only [buildBroker, htls, bind, Except.bind, if_neg hask, hbind, pure, Except.pure]
  rcases hlog : c.auditLog with _ | path
  · exact ⟨_, rfl⟩
  · simp only [haudit path hlog]
    exact ⟨_, rfl⟩

/-! ### Agreement -/

/-- In production what is left to fail is a CA bundle nobody asks client certificates of, and the
audit log. -/
theorem buildable_of_production (hc : fromEnv P host vars = .ok c) (hprod : c.isProd = true)
    (hverify : ∀ ca, host.readable ca = true → host.loadVerifyLocations ca = .ok ())
    (hca : ∀ ca, c.requireClientCert = false → c.tlsCa = some ca →
      host.loadVerifyLocations ca = .ok ())
    (haudit : ∀ path, c.auditLog = some path → host.openAppend path = .ok ()) :
    Buildable host c := by
  obtain ⟨warnings, hv⟩ := validate_of_fromEnv hc
  have htls := tlsReadable_of_validate hv hprod
  refine ⟨fun _ => htls, fun ca _ hset => ?_, fun _ => htls.tlsSet, haudit⟩
  rcases hr : c.requireClientCert with _ | _
  · exact hca ca hr hset
  · obtain ⟨ca', hset', hread⟩ := ca_of_validate hv hr
    obtain rfl := Option.some.inj (hset.symm.trans hset')
    exact hverify ca hread

/-- A configuration the validator lets through is built as it says exactly when the files it names
can be used and client certificates are asked for over TLS only. -/
theorem validator_builder_agree_iff (hc : fromEnv P host vars = .ok c)
    (hload : ∀ cert key, host.readable cert = true → host.readable key = true →
      host.loadCertChain cert key = .ok ())
    (hbind : host.bind c.host c.port = .ok ()) : Agrees host c ↔ Buildable host c := by
  obtain ⟨warnings, hv⟩ := validate_of_fromEnv hc
  constructor
  · rintro ⟨srv, hs, hiff, -⟩
    obtain ⟨htls, hclient, haudit⟩ := buildBroker_ok hs
    obtain ⟨hset, hca⟩ := buildTls_ok htls
    exact ⟨fun h => hiff.1 (hset.trans h), hca, fun h => hset.symm.trans (hclient h), haudit⟩
  · intro h
    obtain ⟨tls, htls⟩ := buildTls_total hload h
    have hset := (buildTls_ok htls).1
    obtain ⟨srv, hs⟩ := buildBroker_total htls (fun hr => hset.trans (h.client hr)) hbind h.audit
    have hsame : srv.tls.isSome = c.tlsSet := (buildTls_ok (buildBroker_ok hs).1).1
    refine ⟨srv, hs, ⟨fun ht => h.tls (hsame.symm.trans ht), fun ht => hsame.trans ht.tlsSet⟩, ?_⟩
    exact fun hprod => hsame.trans (tlsReadable_of_validate hv hprod).tlsSet

variable (P host vars) in
theorem fromEnv_of_check (p : BrokerConfig → Bool)
    (h : (fromEnv P host vars).toOption.map p = some true) :
    ∃ c, fromEnv P host vars = .ok c ∧ p c = true := by
  obtain ⟨c, hc, hp⟩ := Option.map_eq_some_iff.1 h
  rcases hr : fromEnv P host vars with e | c' <;> rw [hr] at hc <;> cases hc
  exact ⟨c, rfl, hp⟩

theorem validator_builder_agree_inline : ∃ c,
    fromEnv (plainPython []) (plainHost [])
        (productionVars (lit "ROBOTSIX_BROKER_AGENT_TOKENS") (lit "a=t")) = .ok c
      ∧ Agrees (plainHost []) c := by
  obtain ⟨c, hc, hp⟩ := fromEnv_of_check (plainPython []) (plainHost [])
    (productionVars (lit "ROBOTSIX_BROKER_AGENT_TOKENS") (lit "a=t"))
    (fun c => c.tlsSet ∧ c.requireClientCert = false) (by decide)
  obtain ⟨hset, hclient⟩ := of_decide_eq_true hp
  obtain ⟨cert, key, hcert, hkey⟩ := tlsSet_iff.1 hset
  refine ⟨c, hc, (validator_builder_agree_iff hc (fun _ _ _ _ => rfl) rfl).2 ⟨?_, ?_, ?_, ?_⟩⟩
  · exact fun _ => ⟨cert, key, hcert, hkey, rfl, rfl⟩
  · exact fun _ _ _ => rfl
  · exact fun _ => hset
  · exact fun _ _ => rfl

def missingFile : Exc := ⟨.osError, lit "No such file or directory"⟩

/-- A machine without any file. -/
def barrenHost : Host :=
  { plainHost [] with
    readable := fun _ => false
    loadCertChain := fun _ _ => .error missingFile
    loadVerifyLocations := fun _ => .error missingFile }

/-- In development a certificate that is missing is warned of, as not being applied, and then
loaded all the same. -/
theorem missing_cert_raises : ∃ c,
    fromEnv (plainPython []) barrenHost
        (productionVars (lit "ROBOTSIX_BROKER_ENV") (lit "development")) = .ok c
      ∧ c.validateTls (plainPython []) barrenHost = .ok [lit "DEVELOPMENT MODE: TLS certificate or key file is missing or unreadable — TLS will not be applied."]
      ∧ buildBroker barrenHost c = .error missingFile ∧ ¬ Agrees barrenHost c := by
  obtain ⟨c, hc, hp⟩ := fromEnv_of_check (plainPython []) barrenHost
    (productionVars (lit "ROBOTSIX_BROKER_ENV") (lit "development"))
    (fun c => c.tlsSet ∧ c.isProd = false) (by decide)
  obtain ⟨hset, hdev⟩ := of_decide_eq_true hp
  obtain ⟨cert, key, hcert, hkey⟩ := tlsSet_iff.1 hset
  have htls : buildTls barrenHost c = .error missingFile := by
    simp only [buildTls, hcert, hkey]
    rfl
  have hbuild : buildBroker barrenHost c = .error missingFile := by
    simp only [buildBroker, htls]
    rfl
  refine ⟨c, hc, ?_, hbuild, ?_⟩
  · simp only [validateTls, hdev, hcert, hkey]
    rfl
  · rintro ⟨srv, hs, -⟩
    rw [hbuild] at hs
    cases hs

end AgentComm
