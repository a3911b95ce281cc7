import VolumeMigration.Proofs.CommandWords
import VolumeMigration.Proofs.Conduct
import VolumeMigration.Proofs.SharedNode

/-!
# Direction and placement of a copy

A strategy puts a copy together from parts that are made apart from one another: the chart values
of one or two pods, and a command that runs in one of them. This module says what the parts amount
to together (`Layout.Directed`) and that those of every strategy do so
(`Strategy.layout_directed`): the command copies from the source to the destination and not the
other way round, each path is looked up in a pod that mounts the right claim at the right place,
and the parts agree on hosts, ports and keys.

Nothing is taken from how the parts are made. The command is split as a shell splits it, its words
are read as rsync and ssh read them (`Rsync.operands`, `Rsync.sshOption?`), and the pods are
described by the trees of chart values that are handed to helm.

The parts are gathered here from the functions that make them (`Migration.layout`). That what a
strategy starts in the course of an attempt consists of such parts is shown where the bodies of the
strategies are walked through (`Strategy.obeys_starting`).
-/

namespace VolumeMigration

/-! ### How rsync reads its words -/

namespace Rsync

/-- Whether a word is an option and not an operand. -/
def isOption (word : String) : Bool := word.toList.head? == some '-'

/-- The operands among the arguments of rsync. Of the options that are given to it only `-e` has
a value of its own. -/
def operands : List String → List String
  | [] => []
  | [word] => if isOption word then [] else [word]
  | word :: next :: words =>
    if word = "-e" then operands words
    else if isOption word then operands (next :: words)
    else word :: operands (next :: words)

/-- The ssh command among the arguments of rsync. -/
def shellCommand? : List String → Option String
  | word :: next :: words => if word = "-e" then some next else shellCommand? (next :: words)
  | _ => none

/-- The options at the beginning of the arguments of ssh. All that are given to it have a value. -/
def sshOptions : List String → List (String × String)
  | flag :: value :: words => if isOption flag then (flag, value) :: sshOptions words else []
  | _ => []

/-- The value of an option in the ssh command of rsync. -/
def sshOption? (flag : String) (words : List String) : Option String :=
  ((shellCommand? words).bind Shell.split?).bind fun words ↦ (sshOptions words.tail).lookup flag

/-- Whether an operand leads to another machine: a colon stands before the first slash. -/
def isRemote (operand : String) : Bool := (operand.toList.takeWhile (· != '/')).contains ':'

/-- An operand: a path, on another machine if there is a host. -/
structure Operand where
  host : Option String
  path : String
  deriving DecidableEq, Repr

/-- The operand as rsync is told it. -/
def Operand.text (o : Operand) : String :=
  match o.host with
  | some host => "root@" ++ host ++ ":" ++ o.path
  | none => o.path

namespace Operand

variable {o : Operand}

theorem text_of_local (hhost : o.host = none) : o.text = o.path := by
  rw [text, hhost]

theorem toList_text_of_remote {host : String} (hhost : o.host = some host) :
    o.text.toList = "root@".toList ++ host.toList ++ ':' :: o.path.toList := by
  simp [text, hhost]

/-- A path from the root is not taken for an option, with a host or without. -/
theorem isOption_text (hpath : o.path.toList.head? = some '/') : isOption o.text = false := by
  rw [isOption]
  cases hhost : o.host with
  | none =>
    rw [text_of_local hhost, hpath]
    rfl
  | some host =>
    rw [toList_text_of_remote hhost]
    rfl

/-- A path from the root is a local one. -/
theorem isRemote_text_of_local (hhost : o.host = none) (hpath : o.path.toList.head? = some '/') :
    isRemote o.text = false := by
  obtain ⟨rest, hrest⟩ := List.head?_eq_some_iff.mp hpath
  rw [isRemote, text_of_local hhost, hrest]
  rfl

theorem isRemote_text_of_remote {host : String} (hhost : o.host = some host)
    (hslash : '/' ∉ host.toList) : isRemote o.text = true := by
  have hbefore : ∀ c ∈ "root@".toList ++ host.toList, (c != '/') = true := by
    intro c hc
    rw [bne_iff_ne]
    rintro rfl
    rcases List.mem_append.mp hc with hc | hc
    · exact absurd hc (by decide)
    · exact hslash hc
  rw [isRemote, toList_text_of_remote hhost, List.takeWhile_append_of_pos hbefore,
    List.takeWhile_cons_of_pos (by decide), List.contains_iff_mem]
  exact List.mem_append_right _ List.mem_cons_self

end Operand

/-- The operand that stands for a side. -/
def Endpoint.toOperand (e : Endpoint) : Operand := ⟨e.login.map (·.host), e.path⟩

/-- Where no user is named, the operand is what rsync is told. -/
theorem Endpoint.text_toOperand {e : Endpoint} (h : e.login.elim "" (·.user) = "") :
    e.toOperand.text = e.address := by
  obtain ⟨path, login⟩ := e
  rcases login with _ | ⟨host, user⟩
  · rfl
  · obtain rfl : user = "" := h
    rfl

namespace Command

variable {c : Command}

/-- Behind its options a command has both sides. -/
theorem operands_arguments (hsource : isOption c.source.address = false)
    (hdestination : isOption c.destination.address = false) :
    operands c.arguments.tail = [c.source.address, c.destination.address] := by
  have hneither : ∀ {word : String}, isOption word = false → word ≠ "-e" := by
    rintro word hword rfl
    exact absurd hword (by decide)
  have hlast : operands [c.source.address, c.destination.address] =
      [c.source.address, c.destination.address] := by
    simp [operands, hsource, hdestination, hneither hsource]
  rw [arguments]
  cases c.compress <;> cases c.noChown <;> cases c.delete <;> exact hlast

theorem isOption_remoteShell (c : Command) :
    isOption (" ".intercalate c.remoteShell) = false := by
  rw [remoteShell, List.append_assoc, List.cons_append, List.cons_append,
    String.intercalate_cons_cons, isOption, String.toList_append, String.toList_append]
  rfl

/-- A side that is no option is no `--delete` either. -/
theorem delete_mem_arguments_iff (hsource : isOption c.source.address = false)
    (hdestination : isOption c.destination.address = false) :
    "--delete" ∈ c.arguments ↔ c.delete = true := by
  have hneither : ∀ {word : String}, isOption word = false → "--delete" ≠ word := by
    rintro word hword rfl
    exact absurd hword (by decide)
  rw [arguments]
  cases c.compress <;> cases c.noChown <;> cases c.delete <;>
    simp [hneither hsource, hneither hdestination, hneither c.isOption_remoteShell]

/-- Whether the private key file, if there is one, has a name that can stand as it is. -/
def HasOrdinaryIdentity (c : Command) : Prop :=
  ∀ file, c.identityFile = some file → Shell.IsOrdinaryWord file

theorem HasOrdinaryIdentity.hasPlainIdentity (h : c.HasOrdinaryIdentity) :
    c.HasPlainIdentity := by
  intro file hfile ch hch hmem
  obtain ⟨hnul, hpassive⟩ := (h file hfile).isPassive ch hmem
  have hbad : ∀ ch ∈ "\x00\"$`\\".toList, ch = '\x00' ∨ Shell.isActiveInDouble ch = true :=
    List.forall_iff_forall_mem.mp (by decide)
  rcases hbad ch hch with h | h
  · exact hnul h
  · exact absurd (hpassive.symm.trans h) Bool.false_ne_true

/-- The options of the ssh command. -/
theorem sshOption?_arguments (h : c.HasOrdinaryIdentity) (flag : String) :
    sshOption? flag c.arguments = (sshOptions c.remoteShell.tail).lookup flag := by
  have hshell : shellCommand? c.arguments = some (" ".intercalate c.remoteShell) := by
    rw [arguments]
    rfl
  have hordinary : ∀ word ∈ c.remoteShell, Shell.IsOrdinaryWord word := by
    intro word hword
    rcases isOrdinaryWord_or_of_mem_remoteShell hword with hword | hfile
    · exact hword
    · exact h word hfile
  have hsplit : Shell.split? (" ".intercalate c.remoteShell) = some c.remoteShell :=
    Shell.split?_intercalate (Shell.forall₂_spells_self hordinary)
  rw [sshOption?, hshell, Option.bind_some, hsplit, Option.bind_some]

theorem sshOption?_port (h : c.HasOrdinaryIdentity) :
    sshOption? "-p" c.arguments = (c.port.filter (· ≠ 0)).map toString := by
  rw [sshOption?_arguments h, remoteShell]
  rcases c.identityFile with _ | file <;> rcases c.port with _ | _ | port
  all_goals rfl

theorem sshOption?_identity (h : c.HasOrdinaryIdentity) :
    sshOption? "-i" c.arguments = c.identityFile := by
  rw [sshOption?_arguments h, remoteShell]
  rcases c.identityFile with _ | file <;> rcases c.port with _ | _ | port
  all_goals rfl

end Command

end Rsync

/-! ### What a strategy hands out -/

/-- The parts of a copy. -/
structure Layout where
  /-- Values of the pod in which the source's path is looked up. -/
  source : Tree
  /-- Values of the pod in which the destination's path is looked up. -/
  destination : Tree
  /-- The command, as it is handed over. -/
  command : Tree

/-- An sshd serves the source, and an rsync job runs the command beside the destination. -/
def Layout.fetching (source destination : ChartValues) : Layout where
  source := source.toTree.get "sshd"
  destination := destination.toTree.get "rsync"
  command := (destination.toTree.get "rsync").get "command"

/-- The parts that a strategy hands out, given the keys, the name of its release, and the address
and the port that were found. -/
def Migration.layout (m : Migration) (keys : Ssh.KeyPair) (release address : String)
    (port : Nat) : Strategy → Except MigrationError Layout
  | .mount => do
    let values := m.mountValues (← commandLine m.request.command)
    return ⟨values.toTree.get "rsync", values.toTree.get "rsync",
      (values.toTree.get "rsync").get "command"⟩
  | .clusterIp => do
    let values ← m.clusterIpValues keys release
    return .fetching values values
  | .loadBalancer => do
    return .fetching (m.loadBalancerSourceValues keys)
      (← m.loadBalancerDestinationValues keys address)
  | .nodePort => do
    return .fetching (m.nodePortSourceValues keys)
      (← m.nodePortDestinationValues keys address port)
  | .viaLocal => do
    -- the command is not among the values, it is run in the pod of the source
    let command ← commandLine (m.pushCommand keys.algorithm)
    return ⟨(m.localSourceValues keys).toTree.get "sshd",
      (m.localDestinationValues keys).toTree.get "sshd", .string command⟩

/-! ### What the parts amount to -/

/-- Whether a pod has one claim at this place, and all of it, and lives in the namespace of the
claim. -/
structure Tree.Holds (pod : Tree) (claim : ClassifiedClaim) (place : String) (readOnly : Bool) :
    Prop where
  enabled : pod.get "enabled" = .bool true
  ns : pod.get "namespace" = .string claim.ns
  mounts : (pod.get "pvcMounts").items.filter
      (fun mount ↦ (mount.get "mountPath").string? == some place) =
    [.map [("name", .string claim.name), ("mountPath", .string place),
      ("readOnly", .bool readOnly)]]
  /-- Nothing else is mounted over a part of it. -/
  whole : ∀ mount ∈ (pod.get "pvcMounts").items, ∀ path,
    (mount.get "mountPath").string? = some path →
      (place ++ "/").toList.isPrefixOf path.toList = false

/-- Whether a pod can log in to another one: the one has the private key of a pair, at its place,
and the other one accepts the public key. -/
structure Tree.Unlocks (pod other : Tree) (keys : Ssh.KeyPair) : Prop where
  mounted : pod.get "privateKeyMount" = .bool true
  privateKey : pod.get "privateKey" = .string keys.privateKey
  place : pod.get "privateKeyMountPath" = .string keys.algorithm.mountPath
  publicKey : other.get "publicKey" = .string keys.publicKey

/-- How a copy agrees with its pods if the destination fetches it, from behind the usual port of
ssh or another one. -/
structure Layout.Fetches (l : Layout) (keys : Ssh.KeyPair) (remotePort : Option Nat)
    (words : List String) (source destination : Rsync.Operand) : Prop where
  source_host : ∃ host, host ≠ "" ∧ source.host = some host ∧
    l.destination.get "sshRemoteHost" = .string host
  destination_host : destination.host = none
  unlocks : l.destination.Unlocks l.source keys
  remotePort_eq : l.destination.get "sshRemotePort" = remotePort.elim .null (.int ·)
  port_option : Rsync.sshOption? "-p" words = remotePort.map toString
  identity_option : Rsync.sshOption? "-i" words = none

/-- How a copy agrees with its pods if the source pushes it through a tunnel. -/
structure Layout.Pushes (l : Layout) (keys : Ssh.KeyPair) (words : List String)
    (source destination : Rsync.Operand) : Prop where
  source_host : source.host = none
  destination_host : destination.host = some "localhost"
  unlocks : l.source.Unlocks l.destination keys
  identity_option : Rsync.sshOption? "-i" words = some keys.algorithm.mountPath
  /-- The command connects to the port where the tunnel begins. -/
  port_option : ∃ entry, Rsync.sshOption? "-p" words = some entry ∧
    ∀ file sourcePort destinationPort command,
      (Rsync.sshOptions
        (Migration.sshArguments file sourcePort destinationPort command)).lookup "-R" =
          some (entry ++ ":localhost:" ++ toString destinationPort)

/-- How a strategy gets from one side to the other, given the port that was found. -/
def Strategy.Connects (l : Layout) (keys : Ssh.KeyPair) (port : Nat) (words : List String)
    (source destination : Rsync.Operand) : Strategy → Prop
  | mount => source.host = none ∧ destination.host = none
  | clusterIp | loadBalancer => l.Fetches keys none words source destination
  | nodePort => l.Fetches keys (some port) words source destination
  | viaLocal => l.Pushes keys words source destination

/-- What the parts of a copy amount to, with the words of its command. -/
structure Layout.Directed (m : Migration) (s : Strategy) (keys : Ssh.KeyPair) (port : Nat)
    (l : Layout) (words : List String) (source destination : Rsync.Operand) : Prop where
  /-- The command has two operands, the source first. -/
  operands : Rsync.operands words.tail = [source.text, destination.text]
  source_path : source.path = "/source/" ++ m.request.source.path
  destination_path : destination.path = "/dest/" ++ m.request.destination.path
  /-- Neither operand can be taken for an option. -/
  not_option : ∀ o ∈ [source, destination], Rsync.isOption o.text = false
  /-- An operand without a host is read as a local path, and one with a host is not, provided
  that no slash in the host misleads rsync. -/
  local_text : ∀ o ∈ [source, destination], o.host = none → Rsync.isRemote o.text = false
  remote_text : ∀ o ∈ [source, destination], ∀ host, o.host = some host → '/' ∉ host.toList →
    Rsync.isRemote o.text = true
  source_pod : l.source.Holds m.source "/source" m.request.sourceReadOnly
  destination_pod : l.destination.Holds m.destination "/dest" false
  delete : "--delete" ∈ words ↔ m.request.deleteExtraneous = true
  connects : s.Connects l keys port words source destination

/-! ### Commands of a migration -/

theorem commandLine_eq_ok_iff {c : Rsync.Command} {line : String} :
    commandLine c = .ok line ↔ c.line = .ok line :=
  mapError_eq_ok_iff

/-- The private keys are mounted at places that a shell does not touch. -/
theorem Ssh.Algorithm.isOrdinaryWord_mountPath (algorithm : Ssh.Algorithm) :
    Shell.IsOrdinaryWord algorithm.mountPath := by
  cases algorithm with
  | ed25519 => decide
  | rsa => decide

/-- The command of a strategy. -/
def Migration.copyCommand (m : Migration) (keys : Ssh.KeyPair) (release address : String)
    (port : Nat) : Strategy → Rsync.Command
  | .mount => m.request.command
  | .clusterIp => m.fetchCommand (m.request.remoteHost (m.sshdDnsName release)) none
  | .loadBalancer => m.fetchCommand (m.request.remoteHost (Text.Ipv6.bracketed address)) none
  | .nodePort => m.fetchCommand (m.request.remoteHost (Text.Ipv6.bracketed address)) (some port)
  | .viaLocal => m.pushCommand keys.algorithm

/-- Whether a command copies what a request asks for, wherever the two sides are. -/
structure Request.Carries (r : Request) (c : Rsync.Command) : Prop where
  source_path : c.source.path = "/source/" ++ r.source.path
  destination_path : c.destination.path = "/dest/" ++ r.destination.path
  delete : c.delete = r.deleteExtraneous
  source_user : c.source.login.elim "" (·.user) = ""
  destination_user : c.destination.login.elim "" (·.user) = ""
  identity : c.HasOrdinaryIdentity

namespace Migration

theorem carries_command (r : Request) : r.Carries r.command where
  source_path := rfl
  destination_path := rfl
  delete := rfl
  source_user := rfl
  destination_user := rfl
  identity := nofun

theorem carries_fetchCommand (m : Migration) (host : String) (remotePort : Option Nat) :
    m.request.Carries (m.fetchCommand host remotePort) where
  source_path := rfl
  destination_path := rfl
  delete := rfl
  source_user := rfl
  destination_user := rfl
  identity := nofun

theorem carries_pushCommand (m : Migration) (algorithm : Ssh.Algorithm) :
    m.request.Carries (m.pushCommand algorithm) where
  source_path := rfl
  destination_path := rfl
  delete := rfl
  source_user := rfl
  destination_user := rfl
  identity := by
    rintro file ⟨⟩
    exact algorithm.isOrdinaryWord_mountPath

end Migration

/-- A command that carries a request and runs between the right pods makes a copy that is
directed. -/
theorem Layout.directed_of_carries {m : Migration} {s : Strategy} {keys : Ssh.KeyPair} {port : Nat}
    {l : Layout} {c : Rsync.Command} {line : String} (hcarries : m.request.Carries c)
    (hline : c.line = .ok line) (hcommand : l.command = .string line)
    (hsource : l.source.Holds m.source "/source" m.request.sourceReadOnly)
    (hdestination : l.destination.Holds m.destination "/dest" false)
    (hconnects : s.Connects l keys port c.arguments c.source.toOperand c.destination.toOperand) :
    ∃ line words source destination, l.command = .string line ∧ Shell.split? line = some words ∧
      l.Directed m s keys port words source destination := by
  have hroot : ∀ o ∈ [c.source.toOperand, c.destination.toOperand],
      o.path.toList.head? = some '/' := by
    intro o ho
    rcases List.mem_pair.mp ho with rfl | rfl
    · rw [Rsync.Endpoint.toOperand, hcarries.source_path, String.toList_append]
      rfl
    · rw [Rsync.Endpoint.toOperand, hcarries.destination_path, String.toList_append]
      rfl
  have hsourceText : c.source.toOperand.text = c.source.address :=
    Rsync.Endpoint.text_toOperand hcarries.source_user
  have hdestinationText : c.destination.toOperand.text = c.destination.address :=
    Rsync.Endpoint.text_toOperand hcarries.destination_user
  have hsourceOption := Rsync.Operand.isOption_text (hroot c.source.toOperand (by simp))
  have hdestinationOption := Rsync.Operand.isOption_text (hroot c.destination.toOperand (by simp))
  rw [hsourceText] at hsourceOption
  rw [hdestinationText] at hdestinationOption
  refine ⟨line, c.arguments, c.source.toOperand, c.destination.toOperand, hcommand,
    Rsync.Command.split?_line hcarries.identity.hasPlainIdentity hline, ?_⟩
  exact {
    operands := by
      rw [hsourceText, hdestinationText]
      exact Rsync.Command.operands_arguments hsourceOption hdestinationOption
    source_path := hcarries.source_path
    destination_path := hcarries.destination_path
    not_option := fun o ho ↦ Rsync.Operand.isOption_text (hroot o ho)
    local_text := fun o ho hhost ↦ Rsync.Operand.isRemote_text_of_local hhost (hroot o ho)
    remote_text := fun _ _ _ hhost hslash ↦ Rsync.Operand.isRemote_text_of_remote hhost hslash
    source_pod := hsource
    destination_pod := hdestination
    delete := by
      rw [Rsync.Command.delete_mem_arguments_iff hsourceOption hdestinationOption, hcarries.delete]
    connects := hconnects }

/-! ### Pods of a migration -/

section

variable {claim : ClassifiedClaim} {place : String} {readOnly : Bool}

theorem Tree.holds_of_mounts {pod : Tree} {mounts : List ClaimMount}
    (henabled : pod.get "enabled" = .bool true) (hns : pod.get "namespace" = .string claim.ns)
    (hmounts : pod.get "pvcMounts" = .list (mounts.map ClaimMount.toTree))
    (hplace : mounts.filter (·.path == place) = [⟨claim.name, place, readOnly⟩])
    (hwhole : ∀ mount ∈ mounts, (place ++ "/").toList.isPrefixOf mount.path.toList = false) :
    pod.Holds claim place readOnly where
  enabled := henabled
  ns := hns
  mounts := by
    rw [hmounts]
    show (mounts.map ClaimMount.toTree).filter _ = _
    rw [List.filter_map]
    exact congrArg (List.map ClaimMount.toTree) hplace
  whole := by
    rw [hmounts]
    intro tree htree path hpath
    obtain ⟨mount, hmount, rfl⟩ := List.mem_map.mp htree
    obtain rfl : mount.path = path := Option.some.inj hpath
    exact hwhole mount hmount

theorem SshdValues.holds_toTree {v : SshdValues} (hns : v.ns = claim.ns)
    (hplace : v.mounts.filter (·.path == place) = [⟨claim.name, place, readOnly⟩])
    (hwhole : ∀ mount ∈ v.mounts, (place ++ "/").toList.isPrefixOf mount.path.toList = false) :
    v.toTree.Holds claim place readOnly := by
  refine Tree.holds_of_mounts rfl (congrArg Tree.string hns) ?_ hplace hwhole
  obtain ⟨ns, publicKey, mounts, affinity, exposure, key⟩ := v
  rcases exposure with _ | exposure
  · rfl
  · rfl

theorem RsyncValues.holds_toTree {v : RsyncValues} (hns : v.ns = claim.ns)
    (hplace : v.mounts.filter (·.path == place) = [⟨claim.name, place, readOnly⟩])
    (hwhole : ∀ mount ∈ v.mounts, (place ++ "/").toList.isPrefixOf mount.path.toList = false) :
    v.toTree.Holds claim place readOnly := by
  refine Tree.holds_of_mounts rfl (congrArg Tree.string hns) ?_ hplace hwhole
  obtain ⟨ns, command, mounts, placement, login⟩ := v
  rcases login with _ | ⟨key, host, _ | port⟩
  · rfl
  · rfl
  · rfl

end

namespace Migration

variable {m : Migration} {keys : Ssh.KeyPair} {host line : String} {remotePort : Option Nat}
  {exposure : Exposure}

/-- Neither claim is mounted below the mount point of the other one. -/
theorem not_below {mount : ClaimMount} {place : String}
    (hmount : mount ∈ [m.sourceClaimMount, m.destinationClaimMount])
    (hplace : place ∈ ["/source", "/dest"]) :
    (place ++ "/").toList.isPrefixOf mount.path.toList = false := by
  have hpath : mount.path ∈ ["/source", "/dest"] := by
    rcases List.mem_pair.mp hmount with rfl | rfl
    · exact List.mem_pair.mpr (Or.inl rfl)
    · exact List.mem_pair.mpr (Or.inr rfl)
  have hall : ∀ place ∈ ["/source", "/dest"], ∀ path ∈ ["/source", "/dest"],
      (place ++ "/").toList.isPrefixOf path.toList = false := by decide
  exact hall place hplace mount.path hpath

theorem holds_sourceSshd (m : Migration) (keys : Ssh.KeyPair) (exposure : Exposure)
    (key : Option KeyMount) :
    ({ m.sourceSshd keys exposure with key } : SshdValues).toTree.Holds m.source "/source"
      m.request.sourceReadOnly := by
  refine SshdValues.holds_toTree rfl rfl fun mount hmount ↦ not_below (m := m) ?_ (by simp)
  exact List.mem_pair.mpr (Or.inl (List.mem_singleton.mp hmount))

theorem holds_destinationRsync (m : Migration) (keys : Ssh.KeyPair) (host : String)
    (remotePort : Option Nat) (line : String) :
    (m.destinationRsync keys host remotePort line).toTree.Holds m.destination "/dest" false := by
  refine RsyncValues.holds_toTree rfl rfl fun mount hmount ↦ not_below (m := m) ?_ (by simp)
  exact List.mem_pair.mpr (Or.inr (List.mem_singleton.mp hmount))

theorem holds_localDestination (m : Migration) (keys : Ssh.KeyPair) :
    ((m.localDestinationValues keys).toTree.get "sshd").Holds m.destination "/dest" false := by
  refine SshdValues.holds_toTree rfl rfl fun mount hmount ↦ not_below (m := m) ?_ (by simp)
  exact List.mem_pair.mpr (Or.inr (List.mem_singleton.mp hmount))

/-- One pod holds both claims if both are in one namespace. -/
theorem holds_mountValues (hns : m.source.ns = m.destination.ns) (line : String) :
    ((m.mountValues line).toTree.get "rsync").Holds m.source "/source" m.request.sourceReadOnly ∧
      ((m.mountValues line).toTree.get "rsync").Holds m.destination "/dest" false := by
  constructor
  · exact RsyncValues.holds_toTree hns.symm rfl fun mount hmount ↦ not_below hmount (by simp)
  · exact RsyncValues.holds_toTree rfl rfl fun mount hmount ↦ not_below hmount (by simp)

theorem fetchingRsync_eq_ok_iff {discovered : String} {rsync : RsyncValues} :
    m.fetchingRsync keys discovered remotePort = .ok rsync ↔
      ∃ line, (m.fetchCommand (m.request.remoteHost discovered) remotePort).line = .ok line ∧
        m.destinationRsync keys (m.request.remoteHost discovered) remotePort line = rsync := by
  simp only [fetchingRsync, bind_eq_ok_iff, commandLine_eq_ok_iff, pure, Except.pure,
    Except.ok.injEq]

/-- What is made of the rsync job of a strategy that fetches is made from a line of its command. -/
theorem fetching_eq_ok_iff {discovered : String} {values : Except MigrationError ChartValues}
    {whole : RsyncValues → ChartValues} {parts : ChartValues → Layout} {l : Layout}
    (hvalues : values = do return whole (← m.fetchingRsync keys discovered remotePort)) :
    (do return parts (← values)) = Except.ok l ↔
      ∃ line, (m.fetchCommand (m.request.remoteHost discovered) remotePort).line = .ok line ∧
        parts (whole (m.destinationRsync keys (m.request.remoteHost discovered) remotePort line)) =
          l := by
  subst hvalues
  constructor
  · intro hlayout
    obtain ⟨chart, hchart, hl⟩ := bind_eq_ok_iff.mp hlayout
    obtain ⟨rsync, hrsync, hwhole⟩ := bind_eq_ok_iff.mp hchart
    obtain ⟨line, hline, rfl⟩ := fetchingRsync_eq_ok_iff.mp hrsync
    obtain rfl := Except.ok.inj hwhole
    exact ⟨line, hline, Except.ok.inj hl⟩
  · rintro ⟨line, hline, rfl⟩
    have hrsync : m.fetchingRsync keys discovered remotePort = .ok _ :=
      fetchingRsync_eq_ok_iff.mpr ⟨line, hline, rfl⟩
    rw [hrsync]
    rfl

/-- A command that fetches and has a line has a host. -/
theorem host_ne_of_line (hline : (m.fetchCommand host remotePort).line = .ok line) : host ≠ "" :=
  (Rsync.Command.exists_line_iff.mp ⟨line, hline⟩).host _ List.mem_cons_self { host } rfl

/-- An sshd beside the source and an rsync job beside the destination agree with the command of
the job. -/
theorem fetches_destinationRsync (hline : (m.fetchCommand host remotePort).line = .ok line)
    (hport : remotePort ≠ some 0) :
    Layout.Fetches ⟨(m.sourceSshd keys exposure).toTree,
        (m.destinationRsync keys host remotePort line).toTree, .string line⟩
      keys remotePort (m.fetchCommand host remotePort).arguments
      (m.fetchCommand host remotePort).source.toOperand
      (m.fetchCommand host remotePort).destination.toOperand where
  source_host := ⟨host, host_ne_of_line hline, rfl, rfl⟩
  destination_host := rfl
  unlocks := ⟨rfl, rfl, rfl, rfl⟩
  remotePort_eq := by
    cases remotePort with
    | none => rfl
    | some port => rfl
  port_option := by
    rw [Rsync.Command.sshOption?_port (carries_fetchCommand m host remotePort).identity]
    rcases remotePort with _ | _ | port
    · rfl
    · exact absurd rfl hport
    · rfl
  identity_option :=
    Rsync.Command.sshOption?_identity (carries_fetchCommand m host remotePort).identity

/-- Both sshds agree with the command that runs beside the source. -/
theorem pushes_pushCommand (m : Migration) (keys : Ssh.KeyPair) (line : String) :
    Layout.Pushes ⟨(m.localSourceValues keys).toTree.get "sshd",
        (m.localDestinationValues keys).toTree.get "sshd", .string line⟩
      keys (m.pushCommand keys.algorithm).arguments
      (m.pushCommand keys.algorithm).source.toOperand
      (m.pushCommand keys.algorithm).destination.toOperand where
  source_host := rfl
  destination_host := rfl
  unlocks := ⟨rfl, rfl, rfl, rfl⟩
  identity_option :=
    Rsync.Command.sshOption?_identity (carries_pushCommand m keys.algorithm).identity
  port_option :=
    ⟨toString tunnelPort,
      Rsync.Command.sshOption?_port (carries_pushCommand m keys.algorithm).identity,
      fun _ _ _ _ ↦ rfl⟩

/-- What three strategies share. -/
theorem directed_of_fetching {s : Strategy} {port : Nat}
    (hline : (m.fetchCommand host remotePort).line = .ok line) (hport : remotePort ≠ some 0)
    (hconnects : ∀ {l words source destination},
      l.Fetches keys remotePort words source destination →
        s.Connects l keys port words source destination) :
    ∃ line' words source destination, Tree.string line = .string line' ∧
      Shell.split? line' = some words ∧
      Layout.Directed m s keys port ⟨(m.sourceSshd keys exposure).toTree,
        (m.destinationRsync keys host remotePort line).toTree, .string line⟩
        words source destination :=
  Layout.directed_of_carries (carries_fetchCommand m host remotePort) hline rfl
    (holds_sourceSshd m keys exposure none) (holds_destinationRsync m keys host remotePort line)
    (hconnects (fetches_destinationRsync hline hport))

end Migration

section

variable {m : Migration} {s : Strategy} {keys : Ssh.KeyPair} {release address : String}
  {port : Nat} {l : Layout}

/-- The parts are made exactly if the command can be carried out. -/
theorem Migration.exists_layout_iff : (∃ l, m.layout keys release address port s = .ok l) ↔
    (m.copyCommand keys release address port s).Feasible := by
  have hline : ∀ {c : Rsync.Command}, (∃ line, commandLine c = .ok line) ↔ c.Feasible := by
    intro c
    simp only [commandLine_eq_ok_iff, Rsync.Command.exists_line_iff]
  have hvalues : ∀ {discovered : String} {remotePort : Option Nat}
      {whole : RsyncValues → ChartValues},
      (∃ values, (do return whole (← m.fetchingRsync keys discovered remotePort)) = .ok values) ↔
        (m.fetchCommand (m.request.remoteHost discovered) remotePort).Feasible :=
    exists_map_eq_ok_iff.trans <| exists_map_eq_ok_iff.trans hline
  cases s with
  | mount => exact exists_map_eq_ok_iff.trans hline
  | clusterIp => exact exists_map_eq_ok_iff.trans hvalues
  | loadBalancer => exact exists_map_eq_ok_iff.trans hvalues
  | nodePort => exact exists_map_eq_ok_iff.trans hvalues
  | viaLocal => exact exists_map_eq_ok_iff.trans hline

/-- The parts that a strategy hands out amount to a directed copy. -/
theorem Strategy.directed_of_layout (hport : 0 < port) (haccepts : s.accepts m = true)
    (hlayout : m.layout keys release address port s = .ok l) :
    ∃ line words source destination, l.command = .string line ∧ Shell.split? line = some words ∧
      l.Directed m s keys port words source destination := by
  cases s with
  | mount =>
    obtain ⟨line, hline, hl⟩ := bind_eq_ok_iff.mp hlayout
    obtain rfl := Except.ok.inj hl
    obtain ⟨-, hns, -⟩ := (Migration.sharesNode_iff m).mp haccepts
    obtain ⟨hsource, hdestination⟩ := Migration.holds_mountValues hns line
    exact Layout.directed_of_carries (Migration.carries_command m.request)
      (commandLine_eq_ok_iff.mp hline) rfl hsource hdestination ⟨rfl, rfl⟩
  | clusterIp =>
    obtain ⟨line, hline, rfl⟩ := (Migration.fetching_eq_ok_iff rfl).mp hlayout
    exact Migration.directed_of_fetching hline nofun id
  | loadBalancer =>
    obtain ⟨line, hline, rfl⟩ := (Migration.fetching_eq_ok_iff rfl).mp hlayout
    exact Migration.directed_of_fetching hline nofun id
  | nodePort =>
    obtain ⟨line, hline, rfl⟩ := (Migration.fetching_eq_ok_iff rfl).mp hlayout
    have hnonzero : some port ≠ some 0 := fun h ↦ absurd (Option.some.inj h) (Nat.ne_of_gt hport)
    exact Migration.directed_of_fetching hline hnonzero id
  | viaLocal =>
    obtain ⟨line, hline, hl⟩ := bind_eq_ok_iff.mp hlayout
    obtain rfl := Except.ok.inj hl
    exact Layout.directed_of_carries (Migration.carries_pushCommand m keys.algorithm)
      (commandLine_eq_ok_iff.mp hline) rfl (Migration.holds_sourceSshd m keys .clusterIp _)
      (Migration.holds_localDestination m keys) (Migration.pushes_pushCommand m keys line)

/-- Whichever strategy it is, it puts a copy together if the command can be carried out, and the
copy goes from the source to the destination, between pods that hold the right claims and agree on
how to reach each other. -/
theorem Strategy.layout_directed (hport : 0 < port) (haccepts : s.accepts m = true) :
    ((∃ l, m.layout keys release address port s = .ok l) ↔
      (m.copyCommand keys release address port s).Feasible) ∧
    ∀ l, m.layout keys release address port s = .ok l →
      ∃ line words source destination, l.command = .string line ∧
        Shell.split? line = some words ∧ l.Directed m s keys port words source destination :=
  ⟨Migration.exists_layout_iff, fun _ hlayout ↦ Strategy.directed_of_layout hport haccepts hlayout⟩

end

namespace Apart

def keys : Ssh.KeyPair := ⟨.rsa, "public", "private"⟩

/-- Claims that are apart, with a path that a shell would take apart as well. -/
def quotedMigration : Migration :=
  { migration with request.source.path := "/it's $(here)", request.deleteExtraneous := true }

end Apart

/-- A copy from a directory with an awkward name, through a port of a node with an IPv6 address. -/
theorem Strategy.layout_directed_apart : ∃ l line words host,
    Apart.quotedMigration.layout Apart.keys "release" "fd00::1" 30022 .nodePort = .ok l ∧
      l.command = .string line ∧ Shell.split? line = some words ∧
      l.destination.get "sshRemoteHost" = .string host ∧
      Rsync.operands words.tail =
        ["root@" ++ host ++ ":" ++ "/source//it's $(here)", "/dest//"] ∧
      Rsync.sshOption? "-p" words = some "30022" ∧ "--delete" ∈ words ∧
      l.source.Holds Apart.quotedMigration.source "/source" true ∧
      l.destination.Holds Apart.quotedMigration.destination "/dest" false := by
  have hfeasible : (Apart.quotedMigration.copyCommand Apart.keys "release" "fd00::1" 30022
      .nodePort).Feasible := by
    refine ⟨by decide +kernel, ?_, ?_⟩
    · rintro e he login hlogin
      rcases List.mem_pair.mp he with rfl | rfl
      · cases hlogin
        decide +kernel
      · cases hlogin
    · rintro e he
      rcases List.mem_pair.mp he with rfl | rfl
      · decide +kernel
      · decide +kernel
  have hport : 0 < 30022 := by decide
  obtain ⟨hexists, hall⟩ :=
    Strategy.layout_directed (m := Apart.quotedMigration) (s := .nodePort) hport rfl
  obtain ⟨l, hl⟩ := hexists.mpr hfeasible
  obtain ⟨line, words, source, destination, hcommand, hsplit, hdirected⟩ := hall l hl
  obtain ⟨host, -, hhost, hremote⟩ := hdirected.connects.source_host
  refine ⟨l, line, words, host, hl, hcommand, hsplit, hremote, ?_,
    hdirected.connects.port_option, hdirected.delete.mpr rfl, hdirected.source_pod,
    hdirected.destination_pod⟩
  have hdestination : destination.host = none := hdirected.connects.destination_host
  rw [hdirected.operands, Rsync.Operand.text, hhost, Rsync.Operand.text_of_local hdestination,
    hdirected.source_path, hdirected.destination_path]
  rfl

end VolumeMigration
