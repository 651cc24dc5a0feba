import SceneGpu.Gpu.Session
import SceneGpu.Main
import SceneGpu.Proofs.Bytecode.Reader
import SceneGpu.Proofs.Object.SetLifetime
import SceneGpu.Proofs.Object.UniformBuffers
import SceneGpu.Proofs.Shader.CacheCoherence
import SceneGpu.Proofs.Glsl.Twice
import SceneGpu.Proofs.Shader.Extent
import SceneGpu.Proofs.Gpu.DeviceQueues
import SceneGpu.Proofs.Object.Detaching
import SceneGpu.Proofs.Shader.ConcurrentLoads
import SceneGpu.Proofs.Object.Custody
import SceneGpu.Proofs.Object.Completion
import SceneGpu.Proofs.Gpu.Selection
import SceneGpu.Proofs.Gpu.Lifetimes
import SceneGpu.Proofs.CommandLine.DevicesCommand
import SceneGpu.Proofs.Bytecode.ExactSize
import SceneGpu.Proofs.Pipeline.MergedLayout
import SceneGpu.Proofs.Bytecode.BlockArrays
import SceneGpu.Proofs.Object.RefusedSets
import SceneGpu.Proofs.Object.LeftoverBuffers
import SceneGpu.Proofs.Gpu.MemberWrites
import SceneGpu.Proofs.Bytecode.NestingLimit
import SceneGpu.Proofs.Object.TextureSlots
import SceneGpu.Proofs.Bytecode.AccessOrder
import SceneGpu.Proofs.Glsl.Freed
import SceneGpu.Proofs.Shader.StageAgreement
import SceneGpu.Proofs.Shader.EmitterInput
import SceneGpu.Proofs.Shader.Recompiling
import SceneGpu.Proofs.Shader.StaleSweeps
import SceneGpu.Proofs.Bytecode.PassedOver
import SceneGpu.Proofs.Path.SourceNames
import SceneGpu.Proofs.Device.WorkaroundPass
import SceneGpu.Proofs.Shader.FailureKinds
import SceneGpu.Proofs.Glsl.Blocks
import SceneGpu.Proofs.Pipeline.RequiredSets
import SceneGpu.Proofs.Object.Disposal
import SceneGpu.Proofs.Device.PackedVersions
import SceneGpu.Proofs.Glsl.Cursor
import SceneGpu.Proofs.Bytecode.Names
import SceneGpu.Proofs.Shader.Insertions
