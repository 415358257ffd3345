import ScriptSandbox.Config.Document
import ScriptSandbox.Console
import ScriptSandbox.Governor
import ScriptSandbox.HostValue.Json
import ScriptSandbox.Http.Backend
import ScriptSandbox.Json.Writer
import ScriptSandbox.CommandLine.Arguments
import ScriptSandbox.CommandLine.Help
import ScriptSandbox.CommandLine.Program
import ScriptSandbox.Main
import ScriptSandbox.Http.Message
import ScriptSandbox.Proofs.Absorption
import ScriptSandbox.Proofs.Allowlist
import ScriptSandbox.Proofs.ObjectGraph
import ScriptSandbox.Proofs.PlainArrays
import ScriptSandbox.Proofs.Canonical
import ScriptSandbox.Proofs.Conduct
import ScriptSandbox.Proofs.Conversation
import ScriptSandbox.Proofs.Isolation
import ScriptSandbox.Proofs.RoundTrip
import ScriptSandbox.Proofs.Steps
import ScriptSandbox.Proofs.Silence
import ScriptSandbox.Proofs.Stages
import ScriptSandbox.Proofs.Timeout
import ScriptSandbox.Proofs.Unfolding
import ScriptSandbox.Proofs.Refusal
import ScriptSandbox.Proofs.Reporting
import ScriptSandbox.Proofs.Malformed
import ScriptSandbox.Proofs.NameReading
import ScriptSandbox.Proofs.NameRunning
import ScriptSandbox.Proofs.Prelude
import ScriptSandbox.Proofs.GlobalObject
import ScriptSandbox.Proofs.Variables
import ScriptSandbox.Proofs.Printing
import ScriptSandbox.Proofs.Fetching
import ScriptSandbox.Proofs.Classifying
import ScriptSandbox.Proofs.ConsoleText
import ScriptSandbox.Proofs.Deadline
import ScriptSandbox.Proofs.DoubleRange
import ScriptSandbox.Proofs.FloatText
import ScriptSandbox.Proofs.JsonAcceptance
import ScriptSandbox.Proofs.JsonGrammar
import ScriptSandbox.Proofs.JsonNumbers
import ScriptSandbox.Proofs.JsonTexts
import ScriptSandbox.Proofs.OutcomeText
import ScriptSandbox.Proofs.ResponseText
import ScriptSandbox.Proofs.ResultSize
import ScriptSandbox.Proofs.ShortestDecimal
import ScriptSandbox.Proofs.Storage
import ScriptSandbox.Proofs.Surrogates
import ScriptSandbox.Proofs.Indifference
import ScriptSandbox.Proofs.Utterances
import ScriptSandbox.Proofs.TomlTexts
import ScriptSandbox.Proofs.TomlIntegers
import ScriptSandbox.Proofs.TomlValues
import ScriptSandbox.Proofs.ConfigText
