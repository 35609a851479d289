import NodeTrial.CommandLine.Options
import NodeTrial.Load.Run
import NodeTrial.Operation.Samples
import NodeTrial.Rehearsal

/-! The command lines of the three tools: the load tester, the transfer tester and the write
server. Each reads its arguments, does its work and says how it ended.
-/

namespace NodeTrial.CommandLine

/-- The tools. -/
inductive Tool where
  | load
  | transfer
  | writeServer
  deriving DecidableEq, Repr

/-- The name and the version that a tool shows. -/
def Tool.title : Tool → String
  | .load => "blockdb_load_tester 0.1.0"
  | .transfer => "blockdb_transfer_tester 0.1.0"
  | .writeServer => "blockdb_dummy_server 0.1.0"

/-- How a tool ended: its exit code, what it printed, the error it ended with, and what the
executor was handed.
-/
structure Outcome where
  code : Nat
  lines : List String
  error : Option String
  handedOver : List (String × String)
  deriving DecidableEq, Repr

namespace Outcome

/-- A tool that printed lines and succeeded. -/
def printed (lines : List String) : Outcome :=
  ⟨0, lines, none, []⟩

/-- A tool that failed; the error is shown in its short form. -/
def failed (diagnostic : String) (handedOver : List (String × String)) : Outcome :=
  ⟨1, [], some ("Error: " ++ diagnostic), handedOver⟩

/-- A tool that did not run: it shows its version or its help, or refuses its arguments. -/
def stopped (tool : Tool) : Stop → Outcome
  | .version => printed [tool.title]
  | .help => printed []
  | .usage => ⟨2, [], none, []⟩

end Outcome

/-- Any value will do. -/
def anyText (_ : String) : Bool :=
  true

def isPath (value : String) : Bool :=
  value != ""

/-- The value is an unsigned word of 64 bits. -/
def isWord (value : String) : Bool :=
  (Text.word? value).isSome

/-- The number below a bound that a value gives; it may have a sign. -/
def smallNumber? (bound : Nat) (value : String) : Option Nat :=
  match Text.signed? value with
  | some n => if 0 ≤ n ∧ n < bound then some n.toNat else none
  | none => none

def isSmallNumber (bound : Nat) (value : String) : Bool :=
  (smallNumber? bound value).isSome

/-- The value is a network address of one of two lengths. -/
def isAddress (value : String) : Bool :=
  (Host.dottedPieces? value.toList).isSome || (Host.ipv6Pieces? value.toList).isSome

/-- The options of the load tester. -/
def loadGrammar : Grammar where
  flags :=
    [⟨"url", some 'u', anyText, true, none⟩, ⟨"rounds", some 'r', isWord, false, none⟩,
     ⟨"timeout-secs", some 't', isWord, false, none⟩]
  positional := none

/-- The options of the transfer tester. -/
def transferGrammar : Grammar where
  flags :=
    [⟨"server", some 's', anyText, false, some "BLOCKDB_SERVER"⟩,
     ⟨"tool", some 't', isPath, false, some "BLOCKDB_TOOL"⟩,
     ⟨"interpreter", none, anyText, false, none⟩, ⟨"amount", some 'a', isWord, false, none⟩,
     ⟨"transaction-file", none, isPath, false, none⟩,
     ⟨"pre-exec-delay-ms", none, isWord, false, none⟩,
     ⟨"settle-delay-ms", none, isWord, false, none⟩,
     ⟨"attempts", none, isSmallNumber UInt32.size, false, none⟩,
     ⟨"retry-delay-ms", none, isWord, false, none⟩,
     ⟨"iterations", some 'i', isWord, false, none⟩]
  positional := some 2

def writeServerGrammar : Grammar where
  flags :=
    [⟨"port", some 'p', isSmallNumber UInt16.size, false, some "PORT"⟩,
     ⟨"host", none, isAddress, false, none⟩]
  positional := none

/-- The word that an option gives, if it was given. -/
def wordOf? (a : Arguments) (name : String) : Option UInt64 :=
  (a.first? name).bind Text.word?

def runLoad (network : Load.Network) (elapsed : Load.Elapsed) (a : Arguments) : Outcome :=
  let rounds := ((wordOf? a "rounds").map UInt64.toNat).getD Defaults.rounds
  let report := do
    let servers ← Load.baseUrls (a.all "url") Defaults.loadUrls
    Load.run network elapsed servers rounds Operation.samples
  match report with
  | .ok report => .printed report.lines
  | .error error => .failed error.diagnostic []

/-- The settings that the arguments of the transfer tester give. -/
def transferConfig (a : Arguments) (server : Url) (tool : String) : TesterConfig :=
  let usual := TesterConfig.usual server tool
  { usual with
    interpreter := some (a.firstOr "interpreter" Defaults.interpreter)
    amount := (wordOf? a "amount").getD usual.amount
    transactionFile := a.firstOr "transaction-file" usual.transactionFile
    preExecDelay := (wordOf? a "pre-exec-delay-ms").getD usual.preExecDelay
    settleDelay := (wordOf? a "settle-delay-ms").getD usual.settleDelay
    attempts :=
      (((a.first? "attempts").bind (smallNumber? UInt32.size)).map UInt32.ofNat).getD usual.attempts
    retryDelay := (wordOf? a "retry-delay-ms").getD usual.retryDelay
    iterations := wordOf? a "iterations" }

/-- Runs the transfer tester; a run without a limit is watched for `patience` transfers. -/
def runTransfer (surroundings : Rehearsal) (words : Words) (patience : Nat) (a : Arguments)
    : Outcome :=
  match a.first? "tool" with
  | none => .stopped .transfer .usage
  | some tool =>
    if a.positional.isEmpty then .stopped .transfer .usage
    else
      match Ledger.ofArguments a.positional with
      | .error error => .failed error.diagnostic []
      | .ok ledger =>
        match Url.base (some (a.firstOr "server" Defaults.server)) Defaults.server with
        | .error error => .failed error.diagnostic []
        | .ok server =>
          let config := transferConfig a server tool
          let environment := surroundings.environment config
          let (result, after) := Tester.run environment config patience (.start ledger words)
          let handedOver := surroundings.handedOver config after.history
          match result with
          | .ok _ => { Outcome.printed [] with handedOver }
          | .error error => .failed error.diagnostic handedOver

/-- Why the write server cannot take a port at an address, if it cannot. A port in use is taken at
the address of the machine itself, and at those that stand for all addresses.
-/
def listenError? (busyPorts : List Nat) (host : String) (port : Nat) : Option SystemError :=
  let isBusy := busyPorts.contains port
  let ofBytes (bytes : List Nat) : Option SystemError :=
    if bytes = [0, 0, 0, 0] ∨ bytes = [127, 0, 0, 1] then
      if isBusy then some .addressInUse else none
    else if bytes.head? = some 127 ∨ bytes.head?.any (224 ≤ ·) then none
    else some .addressNotAvailable
  match Host.dottedPieces? host.toList, Host.ipv6Pieces? host.toList with
  | some [high, low], _ => ofBytes [high / 256, high % 256, low / 256, low % 256]
  | _, some [0, 0, 0, 0, 0, 0, 0, 0] => if isBusy then some .addressInUse else none
  | _, some [0, 0, 0, 0, 0, 0, 0, 1] => none
  | _, some [0, 0, 0, 0, 0, 65535, high, low] =>
    ofBytes [high / 256, high % 256, low / 256, low % 256]
  | _, some (first :: _) =>
    if first / 64 = 0x3fa then some .invalidArgument
    else if first / 256 = 0xff then none
    else some .addressNotAvailable
  | _, _ => none

/-- Starts the write server, which then serves without an end unless it cannot take its port. -/
def runWriteServer (surroundings : Rehearsal) (a : Arguments) : Outcome :=
  let port := ((a.first? "port").bind (smallNumber? UInt16.size)).getD Defaults.port.toNat
  match listenError? surroundings.busyPorts (a.firstOr "host" Defaults.host) port with
  | some error =>
    .failed ("hyper::Error(Listen, " ++ (IoError.system error).diagnostic ++ ")") []
  | none => .printed []

/-- What surrounds the tools: the variables of the environment, the servers of a load run, the
time it takes, the executors and ports, and the stream of chance.
-/
structure Surroundings where
  shellVariables : List (String × String)
  network : Load.Network
  elapsed : Load.Elapsed
  rehearsal : Rehearsal
  words : Words
  patience : Nat

def run (s : Surroundings) (tool : Tool) (args : List String) : Outcome :=
  let grammar := match tool with
    | .load => loadGrammar
    | .transfer => transferGrammar
    | .writeServer => writeServerGrammar
  match read grammar s.shellVariables args with
  | .error stop => .stopped tool stop
  | .ok a =>
    match tool with
    | .load => runLoad s.network s.elapsed a
    | .transfer => runTransfer s.rehearsal s.words s.patience a
    | .writeServer => runWriteServer s.rehearsal a

end NodeTrial.CommandLine
