import BlockSigner.Text
import BlockSigner.Hex
import BlockSigner.Der
import BlockSigner.Json.Value
import BlockSigner.Json.Grammar
import BlockSigner.Json.Parser
import BlockSigner.Json.Compact
import BlockSigner.Json.Layout
import BlockSigner.Exec
import BlockSigner.Libraries
import BlockSigner.Keys
import BlockSigner.Vrf
import BlockSigner.Reference
import BlockSigner.Chain.RpcCaller
import BlockSigner.Chain.RPC
import BlockSigner.Chain.HexData
import BlockSigner.Chain.CurlPipe
import BlockSigner.Chain.Classification
import BlockSigner.Chain.Answers
import BlockSigner.Chain.ErrorReport
import BlockSigner.Chain.Outcome
import BlockSigner.Chain.StringContent
import BlockSigner.Chain.Requests
import BlockSigner.Signer
import BlockSigner.KeyLoading
import BlockSigner.Iteration
import BlockSigner.Register
import BlockSigner.Transition
import BlockSigner.TwoRuns
import BlockSigner.SideBySide
import BlockSigner.Runs
import BlockSigner.Submission
import BlockSigner.NullResult
import BlockSigner.SeedChain
import BlockSigner.NativeFailure
import BlockSigner.Launch
import BlockSigner.Secrecy
import BlockSigner.Chain.CurlRuns
import BlockSigner.Wire
import BlockSigner.Protocol
import BlockSigner.Refinement
import BlockSigner.Ledger
import BlockSigner.Restarts
import BlockSigner.Emission
import BlockSigner.Start
import BlockSigner.Transcript
import BlockSigner.LogLines
import BlockSigner.LogReading
import BlockSigner.Verbosity
import BlockSigner.Property.Grammar
import BlockSigner.Property.Reader
import BlockSigner.ConfigFile
import BlockSigner.Ed25519.Limbs
import BlockSigner.Ed25519.Words
import BlockSigner.Ed25519.Field
import BlockSigner.Ed25519.Fe51
import BlockSigner.Ed25519.Fe25
import BlockSigner.Ed25519.Calls
