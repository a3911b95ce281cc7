import VolumeMigration.Proofs.HostForms
import VolumeMigration.Proofs.Placement

/-!
# The remote endpoint

Three strategies let rsync fetch the source from an sshd, and tell it where by an operand
`root@host:path`. rsync reads the host up to the first colon, or between brackets if it begins with
one (`Rsync.readRemote?`). So an address that was found goes between brackets if it is an IPv6
literal, and is read back (`Rsync.readRemote?_bracketed`).

The host that the request may name in place of the one that was found is embedded as it is. Names
and IPv4 addresses are read back all the same, but an IPv6 literal is not: it breaks off at its
first colon (`Rsync.readRemote?_literal`). That is the one exception
(`Migration.remote_endpoint_read_iff`).
-/

namespace VolumeMigration

namespace Rsync

/-! ### How rsync reads a remote operand -/

/-- What stands before and behind the first occurrence of a character. -/
def cut? (sep : Char) : List Char → Option (List Char × List Char)
  | [] => none
  | c :: cs =>
    if c = sep then some ([], cs)
    else (cut? sep cs).map fun (before, after) ↦ (c :: before, after)

/-- The host and the path of a remote operand behind its user. -/
def readHost? : List Char → Option (List Char × List Char)
  | '[' :: cs => do
    let (host, rest) ← cut? ']' cs
    match rest with
    | ':' :: path => some (host, path)
    | _ => none
  | cs => cut? ':' cs

/-- The host and the path of an operand that names root as the user. -/
def readRemote? (operand : String) : Option (String × String) := do
  let rest ← operand.toList.dropPrefix? "root@".toList
  let (host, path) ← readHost? rest
  some (String.ofList host, String.ofList path)

section

variable {sep : Char} {cs before after : List Char}

theorem cut?_append (hbefore : sep ∉ before) (after : List Char) :
    cut? sep (before ++ sep :: after) = some (before, after) := by
  induction before with
  | nil => exact if_pos rfl
  | cons c before ih =>
    obtain ⟨hc, hrest⟩ := not_or.mp (mt List.mem_cons.mpr hbefore)
    rw [List.cons_append, cut?, if_neg (Ne.symm hc), ih hrest]
    rfl

theorem not_mem_of_cut? (h : cut? sep cs = some (before, after)) : sep ∉ before := by
  induction cs generalizing before with
  | nil => cases h
  | cons c cs ih =>
    rw [cut?] at h
    split at h
    · obtain ⟨rfl, -⟩ := Prod.mk.inj (Option.some.inj h)
      exact List.not_mem_nil
    next hc =>
      obtain ⟨⟨before', after'⟩, hcut, heq⟩ := Option.map_eq_some_iff.mp h
      obtain ⟨rfl, rfl⟩ := Prod.mk.inj heq
      rw [List.mem_cons, not_or]
      exact ⟨Ne.symm hc, ih hcut⟩

theorem readRemote?_root (rest : String) :
    readRemote? ("root@" ++ rest) =
      (readHost? rest.toList).map fun (host, path) ↦ (String.ofList host, String.ofList path) := by
  have hdrop : ("root@" ++ rest).toList.dropPrefix? "root@".toList = some rest.toList := by
    rw [String.toList_append, List.dropPrefix?_eq_some_iff]
    exact ⟨_, rfl, beq_self_eq_true _⟩
  rw [readRemote?, hdrop, Option.bind_eq_bind, Option.bind_some]
  cases readHost? rest.toList <;> rfl

end

/-! ### Hosts that are read back -/

section

variable {host : String}

theorem readHost?_of_head_ne {cs : List Char} (h : cs.head? ≠ some '[') :
    readHost? cs = cut? ':' cs := by
  unfold readHost?
  split
  next => exact absurd rfl h
  next => rfl

/-- A host between brackets, where it needs them, is read back, and so is the path. -/
theorem readRemote?_bracketed (h : IsHost host) (path : String) :
    readRemote? ("root@" ++ Text.Ipv6.bracketed host ++ ":" ++ path) = some (host, path) := by
  rw [String.append_assoc, String.append_assoc, readRemote?_root, Text.Ipv6.bracketed]
  split
  next =>
    have hread : readHost? ("[" ++ host ++ "]" ++ (":" ++ path)).toList =
        some (host.toList, path.toList) := by
      have hcut := cut?_append (h.not_mem (c := ']') (by simp)) (':' :: path.toList)
      simp [readHost?, hcut]
    rw [hread]
    simp
  next hplain =>
    have hcolon : ':' ∉ host.toList := mt h.isLiteral_of_colon_mem hplain
    have hbracket : (host.toList ++ ':' :: path.toList).head? ≠ some '[' := by
      intro hhead
      have hmem : '[' ∈ host.toList := by
        cases hhost : host.toList with
        | nil => simp [hhost] at hhead
        | cons c cs => simp_all
      exact h.not_mem (by simp) hmem
    have hread : readHost? (host ++ (":" ++ path)).toList = some (host.toList, path.toList) := by
      have hcut := cut?_append hcolon path.toList
      rw [String.toList_append, String.toList_append, ← hcut]
      exact readHost?_of_head_ne hbracket
    rw [hread]
    simp

/-- An IPv6 literal without brackets breaks off at its first colon. -/
theorem readRemote?_literal (h : IsHost host) (hliteral : Text.Ipv6.isLiteral host.toList = true)
    (path path' : String) : readRemote? ("root@" ++ host ++ ":" ++ path) ≠ some (host, path') := by
  have hcolon : ':' ∈ host.toList := Text.Ipv6.colon_mem_of_isLiteral hliteral
  have hbracket : (host ++ (":" ++ path)).toList.head? ≠ some '[' := by
    obtain ⟨c, cs, hhost⟩ := List.exists_cons_of_ne_nil (List.ne_nil_of_mem hcolon)
    have hc : '[' ∉ host.toList := h.not_mem (by simp)
    rw [hhost] at hc
    simp only [String.toList_append, hhost, List.cons_append, List.head?_cons]
    rintro ⟨⟩
    exact hc List.mem_cons_self
  rw [String.append_assoc, String.append_assoc, readRemote?_root, readHost?_of_head_ne hbracket]
  intro hread
  obtain ⟨⟨before, after⟩, hcut, heq⟩ := Option.map_eq_some_iff.mp hread
  obtain ⟨rfl, -⟩ := Prod.mk.inj heq
  rw [String.toList_ofList] at hcolon
  exact not_mem_of_cut? hcut hcolon

end

end Rsync

/-! ### The endpoint of a strategy -/

/-- Whether the request names a host. -/
def Request.OverridesHost (r : Request) : Prop := ∃ host, r.hostOverride = some host ∧ host ≠ ""

/-- The host that is meant: the one that the request names, or else the one that was found. -/
def Request.effectiveHost (r : Request) (discovered : String) : String :=
  (r.hostOverride.filter (· ≠ "")).getD discovered

/-- The host that a strategy finds, given the name of its release and the address that was found.
Two strategies look for none. -/
def Migration.discovered? (m : Migration) (release address : String) : Strategy → Option String
  | .clusterIp => some (m.sshdDnsName release)
  | .loadBalancer | .nodePort => some address
  | .mount | .viaLocal => none

section

variable {m : Migration} {r : Request} {s : Strategy} {keys : Ssh.KeyPair}
  {release address discovered : String} {port : Nat} {l : Layout}

theorem Request.effectiveHost_of_overridesHost (h : r.OverridesHost)
    (discovered embedded : String) : r.remoteHost embedded = r.effectiveHost discovered := by
  obtain ⟨host, hhost, hne⟩ := h
  simp [effectiveHost, remoteHost, hhost, hne, Option.filter]

theorem Request.effectiveHost_of_not_overridesHost (h : ¬r.OverridesHost)
    (discovered embedded : String) :
    r.effectiveHost discovered = discovered ∧ r.remoteHost embedded = embedded := by
  unfold effectiveHost remoteHost
  cases hhost : r.hostOverride with
  | none => exact ⟨rfl, rfl⟩
  | some host =>
    have hempty : host = "" := by
      by_contra hne
      exact h ⟨host, hhost, hne⟩
    simp [hempty, Option.filter]

/-- What is embedded is the host that is meant, with brackets or without. -/
theorem Request.remoteHost_bracketed (r : Request) (discovered : String) :
    r.remoteHost (Text.Ipv6.bracketed discovered) = r.effectiveHost discovered ∨
      r.remoteHost (Text.Ipv6.bracketed discovered) =
        Text.Ipv6.bracketed (r.effectiveHost discovered) := by
  by_cases hover : r.OverridesHost
  · exact Or.inl (effectiveHost_of_overridesHost hover discovered _)
  · obtain ⟨heffective, hembedded⟩ := effectiveHost_of_not_overridesHost hover discovered
      (Text.Ipv6.bracketed discovered)
    rw [heffective]
    exact Or.inr hembedded

/-- The name of a service is no IPv6 literal. -/
theorem Migration.not_isLiteral_sshdDnsName (m : Migration) (release : String) :
    Text.Ipv6.isLiteral (m.sshdDnsName release).toList = false := by
  by_contra hliteral
  rw [Bool.not_eq_false] at hliteral
  have hmem : 's' ∈ (m.sshdDnsName release).toList := by
    simp [sshdDnsName, Service.dnsName, sshdServiceName]
  exact absurd (Text.Ipv6.isLiteralChar_of_mem hliteral hmem) (by decide)

/-- What was found is embedded between brackets if it is an IPv6 literal. -/
theorem Migration.copyCommand_of_discovered (keys : Ssh.KeyPair) (port : Nat)
    (hdiscovered : m.discovered? release address s = some discovered) :
    ∃ remotePort, m.copyCommand keys release address port s =
      m.fetchCommand (m.request.remoteHost (Text.Ipv6.bracketed discovered)) remotePort := by
  cases s with
  | clusterIp =>
    obtain rfl := Option.some.inj hdiscovered
    refine ⟨none, ?_⟩
    rw [Text.Ipv6.bracketed, m.not_isLiteral_sshdDnsName release]
    rfl
  | loadBalancer =>
    obtain rfl := Option.some.inj hdiscovered
    exact ⟨none, rfl⟩
  | nodePort =>
    obtain rfl := Option.some.inj hdiscovered
    exact ⟨some port, rfl⟩
  | mount => cases hdiscovered
  | viaLocal => cases hdiscovered

/-- What a strategy hands out to be run is the line of its command. -/
theorem Migration.line_of_layout (hlayout : m.layout keys release address port s = .ok l) :
    ∃ line, l.command = .string line ∧
      (m.copyCommand keys release address port s).line = .ok line := by
  cases s with
  | mount | viaLocal =>
    obtain ⟨line, hline, hl⟩ := bind_eq_ok_iff.mp hlayout
    obtain rfl := Except.ok.inj hl
    exact ⟨line, rfl, commandLine_eq_ok_iff.mp hline⟩
  | clusterIp | loadBalancer | nodePort =>
    obtain ⟨line, hline, rfl⟩ := (Migration.fetching_eq_ok_iff rfl).mp hlayout
    exact ⟨line, rfl, hline⟩

/-- Neither operand of a command that carries a request can be taken for an option. -/
theorem Request.Carries.operands_arguments {c : Rsync.Command} (h : r.Carries c) :
    Rsync.operands c.arguments.tail = [c.source.address, c.destination.address] := by
  have hsource : c.source.toOperand.path.toList.head? = some '/' := by
    rw [Rsync.Endpoint.toOperand, h.source_path, String.toList_append]
    rfl
  have hdestination : c.destination.toOperand.path.toList.head? = some '/' := by
    rw [Rsync.Endpoint.toOperand, h.destination_path, String.toList_append]
    rfl
  have hsourceOption := Rsync.Operand.isOption_text hsource
  have hdestinationOption := Rsync.Operand.isOption_text hdestination
  rw [Rsync.Endpoint.text_toOperand h.source_user] at hsourceOption
  rw [Rsync.Endpoint.text_toOperand h.destination_user] at hdestinationOption
  exact Rsync.Command.operands_arguments hsourceOption hdestinationOption

/-- The words of what a strategy hands out end in both operands, that of the source made from what
was embedded. -/
theorem Migration.operands_of_layout
    (hdiscovered : m.discovered? release address s = some discovered)
    (hlayout : m.layout keys release address port s = .ok l) :
    ∃ line words destination, l.command = .string line ∧ Shell.split? line = some words ∧
      Rsync.operands words.tail =
        ["root@" ++ m.request.remoteHost (Text.Ipv6.bracketed discovered) ++ ":" ++
          ("/source/" ++ m.request.source.path), destination] := by
  obtain ⟨line, hcommand, hline⟩ := line_of_layout hlayout
  obtain ⟨remotePort, hcopy⟩ := copyCommand_of_discovered keys port hdiscovered
  rw [hcopy] at hline
  have hcarries := carries_fetchCommand m
    (m.request.remoteHost (Text.Ipv6.bracketed discovered)) remotePort
  exact ⟨line, _, _, hcommand, Rsync.Command.split?_line hcarries.identity.hasPlainIdentity hline,
    hcarries.operands_arguments⟩

/-- With a proper host a command that fetches can be carried out unless a path holds a NUL. -/
theorem Migration.feasible_fetchCommand_iff {host : String} {remotePort : Option Nat}
    (hne : host ≠ "") (hnul : '\x00' ∉ host.toList) :
    (m.fetchCommand host remotePort).Feasible ↔
      '\x00' ∉ m.request.source.path.toList ∧ '\x00' ∉ m.request.destination.path.toList := by
  have hsource : '\x00' ∉ (m.fetchCommand host remotePort).source.address.toList ↔
      '\x00' ∉ m.request.source.path.toList := by
    simp [fetchCommand, Request.command, Rsync.Endpoint.address, dataPath, sourceMount, hnul]
  have hdestination : '\x00' ∉ (m.fetchCommand host remotePort).destination.address.toList ↔
      '\x00' ∉ m.request.destination.path.toList := by
    simp [fetchCommand, Request.command, Rsync.Endpoint.address, dataPath, destinationMount]
  constructor
  · intro hfeasible
    exact ⟨hsource.mp (hfeasible.nul _ (by simp)), hdestination.mp (hfeasible.nul _ (by simp))⟩
  · rintro ⟨hs, hd⟩
    refine ⟨by simp [fetchCommand, Request.command], ?_, ?_⟩
    · intro e he login hlogin
      rcases List.mem_pair.mp he with rfl | rfl
      · obtain rfl := Option.some.inj hlogin
        exact hne
      · cases hlogin
    · intro e he
      rcases List.mem_pair.mp he with rfl | rfl
      · exact hsource.mpr hs
      · exact hdestination.mpr hd

/-- With hosts of the usual forms a strategy hands out a command unless a path holds a NUL. -/
theorem Migration.exists_layout_of_isHost
    (hdiscovered : m.discovered? release address s = some discovered)
    (hhost : IsHost (m.request.effectiveHost discovered)) :
    (∃ l, m.layout keys release address port s = .ok l) ↔
      '\x00' ∉ m.request.source.path.toList ∧ '\x00' ∉ m.request.destination.path.toList := by
  have hembedded : m.request.remoteHost (Text.Ipv6.bracketed discovered) ≠ "" ∧
      '\x00' ∉ (m.request.remoteHost (Text.Ipv6.bracketed discovered)).toList := by
    rcases m.request.remoteHost_bracketed discovered with h | h <;> rw [h]
    · exact ⟨hhost.ne_empty, hhost.not_mem (by simp)⟩
    · exact ⟨hhost.bracketed_ne_empty, hhost.nul_not_mem_bracketed⟩
  obtain ⟨remotePort, hcopy⟩ := copyCommand_of_discovered keys port hdiscovered
  rw [exists_layout_iff, hcopy]
  exact feasible_fetchCommand_iff hembedded.1 hembedded.2

/-- The remote endpoint of a strategy can be read back, but for an IPv6 literal that the request
names in place of the host that was found. -/
theorem Migration.remote_endpoint_read_iff
    (hdiscovered : m.discovered? release address s = some discovered)
    (hhost : IsHost (m.request.effectiveHost discovered)) :
    ((∃ l, m.layout keys release address port s = .ok l) ↔
      '\x00' ∉ m.request.source.path.toList ∧ '\x00' ∉ m.request.destination.path.toList) ∧
    ∀ l, m.layout keys release address port s = .ok l →
      ∃ line words source destination, l.command = .string line ∧
        Shell.split? line = some words ∧ Rsync.operands words.tail = [source, destination] ∧
        (Rsync.readRemote? source = some (m.request.effectiveHost discovered,
            "/source/" ++ m.request.source.path) ↔
          ¬(m.request.OverridesHost ∧
            Text.Ipv6.isLiteral (m.request.effectiveHost discovered).toList = true)) := by
  refine ⟨exists_layout_of_isHost hdiscovered hhost, fun l hlayout ↦ ?_⟩
  obtain ⟨line, words, destination, hcommand, hsplit, hoperands⟩ :=
    operands_of_layout hdiscovered hlayout
  refine ⟨line, words, _, destination, hcommand, hsplit, hoperands, ?_⟩
  by_cases hover : m.request.OverridesHost
  · rw [Request.effectiveHost_of_overridesHost hover discovered]
    by_cases hliteral : Text.Ipv6.isLiteral (m.request.effectiveHost discovered).toList = true
    · have hlost := Rsync.readRemote?_literal hhost hliteral ("/source/" ++ m.request.source.path)
        ("/source/" ++ m.request.source.path)
      exact iff_of_false hlost (not_not.mpr ⟨hover, hliteral⟩)
    · have hplain := Rsync.readRemote?_bracketed hhost ("/source/" ++ m.request.source.path)
      rw [Text.Ipv6.bracketed, if_neg hliteral] at hplain
      exact iff_of_true hplain fun h ↦ hliteral h.2
  · obtain ⟨heffective, hembedded⟩ := Request.effectiveHost_of_not_overridesHost hover discovered
      (Text.Ipv6.bracketed discovered)
    rw [hembedded, heffective]
    rw [heffective] at hhost
    exact iff_of_true (Rsync.readRemote?_bracketed hhost _) fun h ↦ hover h.1

end

/-- An IPv6 address that was found is read back, with an awkward path behind it. -/
theorem Migration.remote_endpoint_read_iff_found :
    Apart.quotedMigration.discovered? "release" "fd00::1" .nodePort = some "fd00::1" ∧
      IsHost (Apart.quotedMigration.request.effectiveHost "fd00::1") ∧
      ∃ l line words source destination,
        Apart.quotedMigration.layout Apart.keys "release" "fd00::1" 30022 .nodePort = .ok l ∧
        l.command = .string line ∧ Shell.split? line = some words ∧
        Rsync.operands words.tail = [source, destination] ∧
        Rsync.readRemote? source = some ("fd00::1", "/source//it's $(here)") := by
  have hdiscovered :
      Apart.quotedMigration.discovered? "release" "fd00::1" .nodePort = some "fd00::1" := rfl
  have hhost : IsHost (Apart.quotedMigration.request.effectiveHost "fd00::1") :=
    .ipv6 (by decide +kernel)
  obtain ⟨hexists, hread⟩ :=
    remote_endpoint_read_iff hdiscovered hhost
  obtain ⟨l, hl⟩ := hexists.mpr (by decide +kernel)
  obtain ⟨line, words, source, destination, hcommand, hsplit, hoperands, hiff⟩ := hread l hl
  have hnamed : ¬Apart.quotedMigration.request.OverridesHost := fun ⟨_, h, _⟩ ↦ nomatch h
  exact ⟨hdiscovered, hhost, l, line, words, source, destination, hl, hcommand, hsplit, hoperands,
    hiff.mpr fun h ↦ hnamed h.1⟩

/-- A migration whose request names an IPv6 address. -/
def Apart.overridingMigration : Migration :=
  { migration with request.hostOverride := some "fd00::1" }

/-- An IPv6 address that the request names breaks off at its first colon. -/
theorem Migration.remote_endpoint_broken_off :
    IsHost "fd00::1" ∧ Apart.overridingMigration.request.effectiveHost "10.0.0.7" = "fd00::1" ∧
      ∃ l line words source destination,
        Apart.overridingMigration.layout Apart.keys "release" "10.0.0.7" 22 .loadBalancer = .ok l ∧
        l.command = .string line ∧ Shell.split? line = some words ∧
        Rsync.operands words.tail = [source, destination] ∧
        Rsync.readRemote? source = some ("fd00", ":1:/source//") := by
  have hhost : IsHost "fd00::1" := .ipv6 (by decide +kernel)
  have heffective : Apart.overridingMigration.request.effectiveHost "10.0.0.7" = "fd00::1" := by
    decide +kernel
  have hdiscovered : Apart.overridingMigration.discovered? "release" "10.0.0.7" .loadBalancer =
      some "10.0.0.7" := rfl
  obtain ⟨l, hl⟩ := (exists_layout_of_isHost hdiscovered
    (heffective.symm ▸ hhost)).mpr (by decide +kernel)
  obtain ⟨line, words, destination, hcommand, hsplit, hoperands⟩ :=
    operands_of_layout hdiscovered hl
  exact ⟨hhost, heffective, l, line, words, _, destination, hl, hcommand, hsplit, hoperands,
    by decide +kernel⟩

end VolumeMigration
