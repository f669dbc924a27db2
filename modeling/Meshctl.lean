import Meshctl.Foundation.Digits
import Meshctl.Foundation.Execution
import Meshctl.Foundation.Schedule
import Meshctl.Foundation.Bytes
import Meshctl.Foundation.Buffer
import Meshctl.Foundation.CounterMode
import Meshctl.Foundation.Coverage
import Meshctl.Foundation.Epochs
import Meshctl.Foundation.History
import Meshctl.Foundation.KeyedList
import Meshctl.Foundation.LinkedList
import Meshctl.Foundation.Loop
import Meshctl.Foundation.Commutation
import Meshctl.Foundation.Hex
import Meshctl.Foundation.HexPairs
import Meshctl.Foundation.Json
import Meshctl.Crypto.Ccm
import Meshctl.Crypto.CcmInverse
import Meshctl.Crypto.CcmStandard
import Meshctl.Crypto.Application
import Meshctl.Crypto.Packet
import Meshctl.Crypto.PacketInverse
import Meshctl.Crypto.PacketDecoding
import Meshctl.Crypto.EncodeWrites
import Meshctl.Crypto.PacketBuffers
import Meshctl.Gatt.Sar
import Meshctl.Gatt.SarRoundTrip
import Meshctl.Gatt.SarGrammar
import Meshctl.Gatt.SarSafety
import Meshctl.Gatt.PipeTermination
import Meshctl.Node.NodeTable
import Meshctl.Node.LocalData
import Meshctl.Node.ReplayProtection
import Meshctl.Net.Protocol
import Meshctl.Net.AddressPool
import Meshctl.Net.PoolRanges
import Meshctl.Net.AddressOwnership
import Meshctl.Net.PoolExactness
import Meshctl.Net.Types
import Meshctl.Net.Destinations
import Meshctl.Net.Header
import Meshctl.Net.Segment
import Meshctl.Net.State
import Meshctl.Net.Transmit
import Meshctl.Net.Completion
import Meshctl.Net.Send
import Meshctl.Net.SessionFlush
import Meshctl.Net.Beacon
import Meshctl.Net.Whitelist
import Meshctl.Net.BeaconSafety
import Meshctl.Net.Resending
import Meshctl.Net.KeyStore
import Meshctl.Net.KeyRefresh
import Meshctl.Net.KeyFailures
import Meshctl.Net.QueueProgress
import Meshctl.Net.QueueRun
import Meshctl.Net.WriteOrder
import Meshctl.Net.NonceUniqueness
import Meshctl.Net.Restart
import Meshctl.Net.CrashSafety
import Meshctl.Net.PayloadRecovery
import Meshctl.Net.PacketBounds
import Meshctl.Net.Decode
import Meshctl.Net.PacketRoundTrip
import Meshctl.Net.ScratchBounds
import Meshctl.Net.Reassembly
import Meshctl.Net.SegmentBounds
import Meshctl.Net.SegmentGrouping
import Meshctl.Net.MessageInProgress
import Meshctl.Net.SourceIndependence
import Meshctl.Net.SegmentationRoundTrip
import Meshctl.Net.AccessReceive
import Meshctl.Net.MessageLengths
import Meshctl.Net.Receive
import Meshctl.Net.DecodedPacket
import Meshctl.Net.ReassembledLength
import Meshctl.Net.LengthSafety
import Meshctl.Net.DeliveredMetadata
import Meshctl.Net.Link
import Meshctl.Net.SentSegments
import Meshctl.Net.AcknowledgedDelivery
import Meshctl.Net.WirePackets
import Meshctl.Net.MessageDecryption
import Meshctl.Net.MessageDelivery
import Meshctl.Db.MeshNode
import Meshctl.Db.NodeKeys
import Meshctl.Db.Parse
import Meshctl.Db.Load
import Meshctl.Db.AssignedAddresses
import Meshctl.Db.HexKeys
import Meshctl.Db.Store
import Meshctl.Db.Reading
import Meshctl.Db.KeyLists
import Meshctl.Db.NewNode
import Meshctl.Db.KeyRestart
import Meshctl.Db.Composition
import Meshctl.Db.CompositionReload
import Meshctl.Db.RepeatedComposition
import Meshctl.Db.CompositionReads
import Meshctl.Db.StoredBlocks
import Meshctl.Db.ProvisionedNodes
import Meshctl.Db.ModelUpdates
import Meshctl.Db.ModelReading
import Meshctl.Db.ConfigurationReading
import Meshctl.Db.RecordReading
import Meshctl.Db.StoredConfiguration
import Meshctl.Db.ComposedNode
import Meshctl.Node.ConfigClient
import Meshctl.Node.MessageReads
import Meshctl.Node.ClientCommands
import Meshctl.Node.OpcodeFormat
import Meshctl.Node.LightCommands
import Meshctl.Node.StaleNode
import Meshctl.Node.LocalBindings
import Meshctl.Db.ModelStatus
import Meshctl.Db.Settings
import Meshctl.Db.SettingsReading
import Meshctl.Db.StoredSettings
import Meshctl.Db.ProcessRun
import Meshctl.Db.NonceHistory
import Meshctl.Ecc.Vli
import Meshctl.Ecc.Addition
import Meshctl.Ecc.Multiplication
import Meshctl.Ecc.Reduction
import Meshctl.Ecc.ModularProducts
import Meshctl.Ecc.Inversion
import Meshctl.Ecc.Point
import Meshctl.Ecc.PublicKey
import Meshctl.Ecc.PointMultiple
import Meshctl.Prov.Types
import Meshctl.Prov.Agent
import Meshctl.Prov.Session
import Meshctl.Prov.Callbacks
import Meshctl.Prov.Received
import Meshctl.Prov.Confirmation
import Meshctl.Prov.Outcome
import Meshctl.Prov.Waiting
import Meshctl.Prov.Authentication
import Meshctl.Prov.Echo
import Meshctl.Prov.SessionLog
import Meshctl.Prov.LoggedCallbacks
import Meshctl.Prov.LoggedSteps
import Meshctl.Prov.FinishedSession
import Meshctl.Prov.AgentRequests
import Meshctl.Prov.Device
import Meshctl.Prov.Exchange
import Meshctl.Prov.DeviceReading
import Meshctl.Prov.SessionStages
import Meshctl.Prov.SessionProgress
import Meshctl.Prov.SessionSteps
import Meshctl.Prov.MessageSteps
import Meshctl.Prov.ExchangeSteps
import Meshctl.Prov.KeyAgreement
import Meshctl.Prov.CompletedExchange
import Meshctl.Prov.RefusedKey
import Meshctl.Gui.EventChannel
import Meshctl.Gui.ChannelDelivery
import Meshctl.Gui.ChannelShutdown
import Meshctl.Gui.DeviceDiscovery
import Meshctl.Gui.DeviceRemoval
import Meshctl.Gui.DeviceList
import Meshctl.Gui.DeviceSelection
import Meshctl.Gui.DiscoverySessions
import Meshctl.Client.Connection
import Meshctl.Client.Handlers
import Meshctl.Client.ConnectionChanges
import Meshctl.Client.SessionOwnership
import Meshctl.Client.ClosedConnection
import Meshctl.Client.Requests
